import StraceMacos.Library.Marked
import StraceMacos.Syscalls.Formatters

/-!
# Plain and coloured lines

The coloured line of an event is its plain line with colour codes between the tokens: both show the
name, the arguments that are not skipped, the punctuation and the return value, in the same order.
-/

namespace StraceMacos

open Marked Text

/-- The arguments of an event that a line shows. -/
def SyscallEvent.shownArgs (event : SyscallEvent) : List SyscallArg :=
  event.args.filter (! ·.isSkip)

/-- The tokens of the line of an event. -/
def lineTokens (event : SyscallEvent) : List String :=
  [event.syscallName, "("] ++
    List.intercalate [",", " "] (event.shownArgs.map fun arg => [arg.toStr]) ++
    [")", " ", "=", " ", event.returnValue.toStr]

theorem formatText_eq (event : SyscallEvent) : formatText event = join "" (lineTokens event) := by
  have hargs : join "" (List.intercalate [",", " "] (event.shownArgs.map fun arg => [arg.toStr])) =
      join ", " (event.shownArgs.map SyscallArg.toStr) := by
    rw [join_intercalate, List.map_map]
    congr 1
    exact List.map_congr_left fun arg _ => join_singleton "" arg.toStr
  rw [lineTokens, join_append, join_append, hargs]
  apply String.toList_injective
  simp [formatText, SyscallEvent.shownArgs, toList_join_empty]

namespace Colors

variable (colors : Colors)

/-- All colour codes of a formatter. -/
def codes : List String :=
  [colors.reset, colors.syscall, colors.string, colors.number, colors.pointer, colors.fd,
    colors.returnOk, colors.returnErr, colors.punctuation]

/-- A token between a colour code and the reset code. -/
def paint (code s : String) : List Piece :=
  [.mark code, .token s, .mark colors.reset]

def argPieces (arg : SyscallArg) : List Piece :=
  match arg with
  | .string _ => colors.paint colors.string arg.toStr
  | .pointer _ => colors.paint colors.pointer arg.toStr
  | .fileDescriptor _ => colors.paint colors.fd arg.toStr
  | .int .. | .unsigned _ => colors.paint colors.number arg.toStr
  | _ => [.token arg.toStr]

/-- The coloured line as its tokens with the colour codes between them. -/
def linePieces (event : SyscallEvent) : List Piece :=
  colors.paint colors.syscall event.syscallName ++ colors.paint colors.punctuation "(" ++
    List.intercalate (colors.paint colors.punctuation "," ++ [.token " "])
      (event.shownArgs.map colors.argPieces) ++
    colors.paint colors.punctuation ")" ++ [.token " "] ++
    colors.paint colors.punctuation "=" ++ [.token " "] ++
    colors.paint (colors.ofReturn event.returnValue) event.returnValue.toStr

theorem render_paint (code s : String) :
    render (colors.paint code s) = code ++ s ++ colors.reset := by
  apply String.toList_injective
  simp [render, paint, Piece.text, toList_join_empty]

theorem render_argPieces (arg : SyscallArg) :
    render (colors.argPieces arg) = colors.formatArg arg := by
  cases arg with
  | string | pointer | fileDescriptor | int | unsigned => exact colors.render_paint _ _
  | _ => exact join_singleton "" _

theorem format_eq_render (event : SyscallEvent) :
    colors.format event = render (colors.linePieces event) := by
  have hargs : (event.shownArgs.map colors.argPieces).map render =
      event.shownArgs.map colors.formatArg := by
    rw [List.map_map]
    exact List.map_congr_left fun arg _ => colors.render_argPieces arg
  have hblank : render [.token " "] = " " := rfl
  simp only [linePieces, render_append, render_intercalate, render_paint, hargs, hblank]
  apply String.toList_injective
  simp [format, formatCall, SyscallEvent.shownArgs]

/-- Each argument is one token, whatever its colour. -/
theorem tokens_argPieces (arg : SyscallArg) : tokens (colors.argPieces arg) = [arg.toStr] := by
  cases arg <;> rfl

theorem tokens_linePieces (event : SyscallEvent) :
    tokens (colors.linePieces event) = lineTokens event := by
  have hargs : (event.shownArgs.map colors.argPieces).map tokens =
      event.shownArgs.map fun arg => [arg.toStr] := by
    rw [List.map_map]
    exact List.map_congr_left fun arg _ => colors.tokens_argPieces arg
  have hpaint (code s : String) : tokens (colors.paint code s) = [s] := rfl
  have hblank : tokens [.token " "] = [" "] := rfl
  simp only [linePieces, tokens_append, tokens_intercalate, hargs, hpaint, hblank]
  simp [lineTokens]

theorem marksIn_paint {code : String} (h : code ∈ colors.codes) (s : String) :
    MarksIn colors.codes (colors.paint code s) := by
  have hreset : colors.reset ∈ colors.codes := List.mem_cons_self
  simp [MarksIn, paint, h, hreset]

theorem marksIn_argPieces (arg : SyscallArg) : MarksIn colors.codes (colors.argPieces arg) := by
  cases arg with
  | string | pointer | fileDescriptor | int | unsigned =>
    exact colors.marksIn_paint (by simp [codes]) _
  | _ => simp [MarksIn, argPieces]

theorem marksIn_linePieces (event : SyscallEvent) :
    MarksIn colors.codes (colors.linePieces event) := by
  have hreturn : colors.ofReturn event.returnValue ∈ colors.codes := by
    unfold ofReturn
    split
    · simp [codes]
    · split_ifs <;> simp [codes]
  have hpunctuation (s : String) : MarksIn colors.codes (colors.paint colors.punctuation s) :=
    colors.marksIn_paint (by simp [codes]) s
  have hblank : MarksIn colors.codes [.token " "] := by simp [MarksIn]
  have hargs : ∀ pieces ∈ event.shownArgs.map colors.argPieces, MarksIn colors.codes pieces := by
    intro pieces hp
    obtain ⟨arg, -, rfl⟩ := List.mem_map.mp hp
    exact colors.marksIn_argPieces arg
  have hname : MarksIn colors.codes (colors.paint colors.syscall event.syscallName) :=
    colors.marksIn_paint (by simp [codes]) _
  have hcall := (hname.append (hpunctuation "(")).append
    (.intercalate ((hpunctuation ",").append hblank) hargs)
  have hend := ((hcall.append (hpunctuation ")")).append hblank).append (hpunctuation "=")
  exact (hend.append hblank).append (colors.marksIn_paint hreturn _)

end Colors

/-- Without colours the coloured line is the plain line, and with any colours it has the tokens of
the plain line with colour codes between them. -/
theorem format_eq_formatText_with_codes (event : SyscallEvent) :
    Colors.format ⟨"", "", "", "", "", "", "", "", ""⟩ event = formatText event ∧
    formatText event = join "" (lineTokens event) ∧
    ∀ colors : Colors, ∃ pieces, colors.format event = render pieces ∧
      tokens pieces = lineTokens event ∧ MarksIn colors.codes pieces := by
  refine ⟨?_, formatText_eq event, fun colors => ⟨colors.linePieces event,
    colors.format_eq_render event, colors.tokens_linePieces event,
    colors.marksIn_linePieces event⟩⟩
  have hempty : MarksIn [""] (Colors.linePieces ⟨"", "", "", "", "", "", "", "", ""⟩ event) :=
    fun s hs => by simpa [Colors.codes] using Colors.marksIn_linePieces _ event s hs
  rw [Colors.format_eq_render, render_of_empty_marks hempty, Colors.tokens_linePieces,
    formatText_eq]

end StraceMacos
