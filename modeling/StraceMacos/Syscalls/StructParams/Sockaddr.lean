import StraceMacos.Syscalls.Definitions.Struct
import StraceMacos.Syscalls.Symbols.Network

/-!
# Socket addresses

`sockaddr.py`, with the parts of the `socket` module that it calls.
-/

namespace StraceMacos

open CStruct

/-! ## The `socket` module -/

/-- `socket.ntohs`: the bytes are swapped on a little-endian host. -/
def ntohs (host : ByteOrder) (v : Nat) : Nat :=
  match host with
  | .little => v % 256 * 256 + v / 256 % 256
  | .big => v

/-- `socket.ntohl` -/
def ntohl (host : ByteOrder) (v : Nat) : Nat :=
  match host with
  | .little => v % 256 * 2 ^ 24 + v / 256 % 256 * 2 ^ 16 + v / 2 ^ 16 % 256 * 256 + v / 2 ^ 24 % 256
  | .big => v

/-- `value.to_bytes(4, "big")` -/
def toBytesBig4 (v : Nat) : List Nat :=
  [v / 2 ^ 24 % 256, v / 2 ^ 16 % 256, v / 256 % 256, v % 256]

/-- `socket.inet_ntoa` -/
def inetNtoa (octets : List Nat) : String :=
  Text.join "." (octets.map toString)

/-- The longer of two runs of zero words, the first one on a tie; a run is its start and length. -/
def longerRun (best cur : Option (Nat × Nat)) : Option (Nat × Nat) :=
  match best, cur with
  | none, cur => cur
  | best, none => best
  | some best, some cur => if best.2 < cur.2 then some cur else some best

/-- The first longest run of zero words from index `i`, after the run `best` and inside `cur`. -/
def bestRun (i : Nat) (best cur : Option (Nat × Nat)) : List Nat → Option (Nat × Nat)
  | [] => longerRun best cur
  | w :: ws =>
    if w = 0 then bestRun (i + 1) best (some (cur.elim (i, 1) fun c => (c.1, c.2 + 1))) ws
    else bestRun (i + 1) (longerRun best cur) none ws

/-- Whether the last two words of an address are shown as an embedded IPv4 address. -/
def embedsIpv4 (words : List Nat) (run : Option (Nat × Nat)) : Bool :=
  match run with
  | some (0, 6) => true
  | some (0, 5) => words[5]? == some 0xFFFF
  | _ => false

/-- The words from index `i` on, where `run` is shown as `::`. -/
def formatWords (i : Nat) (run : Option (Nat × Nat)) : List Nat → String
  | [] => if run.any fun r => r.1 + r.2 = 8 then ":" else ""
  | w :: ws =>
    if run.any fun r => r.1 ≤ i ∧ i < r.1 + r.2 then
      (if run.any fun r => r.1 = i then ":" else "") ++ formatWords (i + 1) run ws
    else (if i = 0 then "" else ":") ++ Text.hex w ++ formatWords (i + 1) run ws

/-- `socket.inet_ntop(AF_INET6, addr)` of 16 bytes -/
def inetNtop6 (addr : Bytes) : String :=
  let words := (List.range 8).map fun i => Bytes.toNat .big (addr.slice (2 * i) (2 * i + 2))
  let run := (bestRun 0 none none words).filter fun r => 2 ≤ r.2
  if embedsIpv4 words run then
    let ipv4 := inetNtoa ((addr.slice 12 16).map UInt8.toNat)
    if run = some (0, 6) then "::" ++ ipv4 else "::ffff:" ++ ipv4
  else formatWords 0 run words

example : inetNtop6 [0x20, 1, 0x0d, 0xb8, 0, 0, 0, 0, 0, 0, 0, 0, 0, 0, 0, 1] = "2001:db8::1" := by
  decide +kernel

/-! ## Decoding -/

def sockaddrBase : List Field :=
  [⟨"sa_len", u8⟩, ⟨"sa_family", u8⟩]

def sockaddrUn : List Field :=
  [⟨"sun_len", u8⟩, ⟨"sun_family", u8⟩, ⟨"sun_path", .chars 104⟩]

def sockaddrIn : List Field :=
  [⟨"sin_len", u8⟩, ⟨"sin_family", u8⟩, ⟨"sin_port", u16⟩, ⟨"sin_addr", u32⟩,
    ⟨"sin_zero", .chars 8⟩]

def sockaddrIn6 : List Field :=
  [⟨"sin6_len", u8⟩, ⟨"sin6_family", u8⟩, ⟨"sin6_port", u16⟩, ⟨"sin6_flowinfo", u32⟩,
    ⟨"sin6_addr", .array 1 false 16⟩, ⟨"sin6_scope_id", u32⟩]

/-- The bytes of a `char` array member. -/
def getChars (vs : List (Field × CVal)) (name : String) : Bytes :=
  match vs.find? fun fv => fv.1.name == name with
  | some (_, .chars bs) => bs
  | _ => []

/-- `bytes(value)` of a member that is an array of unsigned bytes. -/
def getByteArray (vs : List (Field × CVal)) (name : String) : Bytes :=
  match vs.find? fun fv => fv.1.name == name with
  | some (_, .array bs) => bs.map fun b => UInt8.ofNat b.toNat
  | _ => []

/-- `_decode_unix` -/
def decodeUnix (process : Process) (address : Nat) : Fields :=
  match readStruct process address sockaddrUn with
  | none => [("sa_family", .str "AF_UNIX")]
  | some structObj =>
    let sunPath := match (getChars structObj "sun_path").decodeUtf8 with
      | some path => if path.isEmpty then [] else [("sun_path", .str ("\"" ++ path ++ "\""))]
      | none => []
    ("sa_family", .str "AF_UNIX") :: sunPath

/-- The port field of an Internet address, shown when it is not zero. -/
def portField (name : String) (host : ByteOrder) (port : Int) : Fields :=
  let port := ntohs host port.toNat
  if port ≠ 0 then [(name, .str ("htons(" ++ toString port ++ ")"))] else []

/-- `_decode_inet` -/
def decodeInet (process : Process) (address : Nat) : Fields :=
  match readStruct process address sockaddrIn with
  | none => [("sa_family", .str "AF_INET")]
  | some structObj =>
    let ipAddr := ntohl process.byteOrder (getInt structObj "sin_addr").toNat
    let ipStr := inetNtoa (toBytesBig4 ipAddr)
    ("sa_family", .str "AF_INET") ::
      portField "sin_port" process.byteOrder (getInt structObj "sin_port") ++
      [("sin_addr", .str ("inet_addr(\"" ++ ipStr ++ "\")"))]

/-- `_decode_inet6` -/
def decodeInet6 (process : Process) (address : Nat) : Fields :=
  match readStruct process address sockaddrIn6 with
  | none => [("sa_family", .str "AF_INET6")]
  | some structObj =>
    let ipStr := inetNtop6 (getByteArray structObj "sin6_addr")
    let scopeId := getInt structObj "sin6_scope_id"
    ("sa_family", .str "AF_INET6") ::
      portField "sin6_port" process.byteOrder (getInt structObj "sin6_port") ++
      [("sin6_addr", .str ("inet_pton(AF_INET6, \"" ++ ipStr ++ "\")"))] ++
      if scopeId ≠ 0 then [("sin6_scope_id", .int scopeId)] else []

/-- `SockaddrParam.decode_struct`; `no_abbrev` is not used. -/
def decodeSockaddr (process : Process) (address : Nat) (_noAbbrev : Bool) :
    Except PyError (Option Fields) :=
  .ok <| (readStruct process address sockaddrBase).map fun base =>
    let saFamily := getInt base "sa_family"
    if saFamily = 1 then decodeUnix process address
    else if saFamily = 2 then decodeInet process address
    else if saFamily = 30 then decodeInet6 process address
    else [("sa_family", .str (afConstants.get saFamily (toString saFamily)))]

end StraceMacos
