import StraceMacos.Library.Text
import StraceMacos.Library.Bytes
import StraceMacos.Library.CStruct
import StraceMacos.Library.Escaped
import StraceMacos.Library.Marked
import StraceMacos.Library.Dict
import StraceMacos.Library.Fallible
import StraceMacos.Library.Run
import StraceMacos.Library.Ledger
import StraceMacos.Library.Projection
import StraceMacos.Tracer
import StraceMacos.System
import StraceMacos.Proofs.RegistryProofs
import StraceMacos.Proofs.DecodeProofs
import StraceMacos.Proofs.StopProofs
import StraceMacos.Proofs.EntryProofs
import StraceMacos.Proofs.LedgerProofs
import StraceMacos.Proofs.EventArgProofs
import StraceMacos.Proofs.SummaryProofs
import StraceMacos.Proofs.ContextProofs
import StraceMacos.Proofs.SystemProofs
import StraceMacos.Proofs.FilterProofs
import StraceMacos.Library.Ascii
import StraceMacos.Library.Numeral
import StraceMacos.Proofs.ArgumentProofs
import StraceMacos.Proofs.ScalarProofs
import StraceMacos.Library.BitMask
import StraceMacos.Library.Bitmap
import StraceMacos.Library.CExpr
import StraceMacos.Library.CImage
import StraceMacos.Proofs.FlagProofs
import StraceMacos.Proofs.KeventProofs
import StraceMacos.Library.CString
import StraceMacos.Proofs.StringProofs
import StraceMacos.Proofs.RereadProofs
import StraceMacos.Proofs.ExitProofs
import StraceMacos.Proofs.OutputProofs
import StraceMacos.Library.Printable
import StraceMacos.Proofs.PrintableProofs
import StraceMacos.Proofs.CleanProofs
import StraceMacos.Proofs.ParamProofs
import StraceMacos.Proofs.LineProofs
import StraceMacos.Proofs.QuoteProofs
import StraceMacos.Proofs.FormatProofs
import StraceMacos.Proofs.StringArrayProofs
import StraceMacos.Proofs.SockaddrProofs
import StraceMacos.Proofs.SigeventProofs
import StraceMacos.Proofs.EventProofs
import StraceMacos.Proofs.VectorProofs
import StraceMacos.Library.Interleaving
import StraceMacos.Proofs.NestingProofs
import StraceMacos.Proofs.JsonProofs
import StraceMacos.Library.CValue
import StraceMacos.Proofs.StructProofs
import StraceMacos.Library.Words
import StraceMacos.Proofs.TableReadProofs
import StraceMacos.Proofs.FailureProofs
import StraceMacos.Proofs.ReadLineProofs
import StraceMacos.Proofs.ScalarLineProofs
import StraceMacos.Proofs.PlatformProofs
import StraceMacos.Proofs.SysctlProofs
