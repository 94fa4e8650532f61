import Directives.Json.Decimal

/-! Reading JSON.

A text is cut into lexemes, and the lexemes drive a machine that holds the
containers still open. Each lexeme either fits what the machine expects or ends
the reading; a text is read when the machine has one complete value at its end.
127 containers may be open at a time. -/
namespace Directives.Read

/-- A lexeme of JSON. -/
inductive Lexeme where
  | openArray
  | closeArray
  | openObject
  | closeObject
  | comma
  | colon
  | string (s : Text)
  /-- A number, `true`, `false` or `null`. -/
  | scalar (value : Value)
  deriving Repr

/-! ### Strings -/

/-- The value of a hexadecimal digit of either case. -/
def hexValue? (c : Char) : Option Nat :=
  if c.isDigit then some (c.toNat - '0'.toNat)
  else if 'a' ≤ c && c ≤ 'f' then some (c.toNat - 'a'.toNat + 10)
  else if 'A' ≤ c && c ≤ 'F' then some (c.toNat - 'A'.toNat + 10)
  else none

/-- The code unit of four hexadecimal digits, and what follows them. -/
def unit? : Text → Option (Nat × Text)
  | a :: b :: c :: d :: rest => do
    let a ← hexValue? a
    let b ← hexValue? b
    let c ← hexValue? c
    let d ← hexValue? d
    some (((a * 16 + b) * 16 + c) * 16 + d, rest)
  | _ => none

/-- The character of one code unit that is no surrogate. -/
def ofUnit? (u : Nat) : Option Char :=
  if 0xD800 ≤ u && u ≤ 0xDFFF then none else some (Char.ofNat u)

/-- The character of a high and a low surrogate. -/
def ofUnits? (high low : Nat) : Option Char :=
  if 0xD800 ≤ high && high ≤ 0xDBFF && 0xDC00 ≤ low && low ≤ 0xDFFF then
    some (Char.ofNat (0x10000 + (high - 0xD800) * 0x400 + (low - 0xDC00)))
  else none

/-- The character that `\` and `c` stand for. -/
def shortEscape? (c : Char) : Option Char :=
  if c = '"' || c = '\\' || c = '/' then some c
  else if c = 'b' then some '\x08'
  else if c = 'f' then some '\x0c'
  else if c = 'n' then some '\n'
  else if c = 'r' then some '\r'
  else if c = 't' then some '\t'
  else none

/-- The character of one code unit, or of two that are surrogates, and what follows it. -/
def unicodeEscape? (s : Text) : Option (Char × Text) :=
  (unit? s).bind fun (high, rest) =>
    match ofUnit? high with
    | some c => some (c, rest)
    | none =>
      (Text.after? ['\\', 'u'] rest).bind fun rest =>
        (unit? rest).bind fun (low, rest) => (ofUnits? high low).map fun c => (c, rest)

/-- The first character of a string behind its opening quote, and what follows; nothing
at the closing quote, and nothing where no character can stand. -/
def char? : Text → Option (Char × Text)
  | [] => none
  | c :: rest =>
    if c = '\\' then
      match rest with
      | [] => none
      | d :: rest =>
        if d = 'u' then unicodeEscape? rest else (shortEscape? d).map fun c => (c, rest)
    else if c = '"' || c.toNat < 0x20 then none
    else some (c, rest)

/-- Four digits leave less to read. -/
theorem length_lt_of_unit? {s rest : Text} {u : Nat} (h : unit? s = some (u, rest)) :
    rest.length < s.length := by
  unfold unit? at h
  split at h
  · simp only [Option.bind_eq_bind, Option.bind_eq_some_iff, Option.some.injEq,
      Prod.mk.injEq] at h
    obtain ⟨_, -, _, -, _, -, _, -, -, rfl⟩ := h
    simp only [List.length_cons]; omega
  · simp at h

/-- An escape leaves less to read. -/
theorem length_lt_of_unicodeEscape? {s rest : Text} {c : Char}
    (h : unicodeEscape? s = some (c, rest)) : rest.length < s.length := by
  simp only [unicodeEscape?, Option.bind_eq_some_iff] at h
  obtain ⟨⟨high, behind⟩, hHigh, h⟩ := h
  have := length_lt_of_unit? hHigh
  split at h
  · simp only [Option.some.injEq, Prod.mk.injEq] at h
    obtain ⟨-, rfl⟩ := h
    exact this
  · simp only [Option.bind_eq_some_iff, Option.map_eq_some_iff, Prod.mk.injEq] at h
    obtain ⟨next, hNext, ⟨low, last⟩, hLow, _, -, -, rfl⟩ := h
    have := length_lt_of_unit? hLow
    have := Text.length_lt_of_after? hNext (by simp)
    simp only
    omega

/-- A character of a string leaves less to read. -/
theorem length_lt_of_char? {s rest : Text} {c : Char} (h : char? s = some (c, rest)) :
    rest.length < s.length := by
  cases s with
  | nil => simp [char?] at h
  | cons first behind =>
    simp only [char?] at h
    split at h
    · cases behind with
      | nil => simp at h
      | cons second behind =>
        simp only [] at h
        split at h
        · have := length_lt_of_unicodeEscape? h
          simp only [List.length_cons]; omega
        · simp only [Option.map_eq_some_iff, Prod.mk.injEq] at h
          obtain ⟨_, -, -, rfl⟩ := h
          simp only [List.length_cons]; omega
    · split at h
      · simp at h
      · simp only [Option.some.injEq, Prod.mk.injEq] at h
        obtain ⟨-, rfl⟩ := h
        simp

/-- The string whose opening quote is passed, and what follows its closing quote. -/
def string? (s : Text) : Option (Text × Text) :=
  match h : char? s with
  | some (c, rest) =>
    have := length_lt_of_char? h
    (string? rest).map fun (cs, rest) => (c :: cs, rest)
  | none => (Text.after? ['"'] s).map fun rest => ([], rest)
  termination_by s.length

/-! ### Lexemes -/

/-- White space of JSON. -/
def isSpace (c : Char) : Bool :=
  c == ' ' || c == '\t' || c == '\n' || c == '\r'

/-- The lexeme at the start of a text that does not begin with white space, and what
follows it. -/
def lexeme? (s : Text) : Option (Lexeme × Text) :=
  match s with
  | '[' :: rest => some (.openArray, rest)
  | ']' :: rest => some (.closeArray, rest)
  | '{' :: rest => some (.openObject, rest)
  | '}' :: rest => some (.closeObject, rest)
  | ',' :: rest => some (.comma, rest)
  | ':' :: rest => some (.colon, rest)
  | '"' :: rest => (string? rest).map fun (s, rest) => (.string s, rest)
  | 't' :: 'r' :: 'u' :: 'e' :: rest => some (.scalar (.bool true), rest)
  | 'f' :: 'a' :: 'l' :: 's' :: 'e' :: rest => some (.scalar (.bool false), rest)
  | 'n' :: 'u' :: 'l' :: 'l' :: rest => some (.scalar .null, rest)
  | _ => (Decimal.read? s).map fun (n, rest) => (.scalar (.number n), rest)

/-- The lexemes of a text. Each try uses up at least one character, so that as many tries
as there are characters are enough. -/
def lexemes? (tries : Nat) (s : Text) : Option (List Lexeme) :=
  match s.dropWhile isSpace with
  | [] => some []
  | s =>
    match tries with
    | 0 => none
    | tries + 1 => do
      let (first, rest) ← lexeme? s
      let others ← lexemes? tries rest
      some (first :: others)

/-! ### Values -/

/-- A container that is still open: what it holds so far, the last first, and for an
object the key that waits for its value. -/
inductive Frame where
  | items (before : List Value)
  | members (before : List (Text × Value)) (key : Text)
  deriving Repr

/-- What may come next. -/
inductive Expects where
  | value
  | itemOrEnd
  | keyOrEnd
  | key
  | colon
  | commaOrEnd
  | nothing
  deriving DecidableEq, Repr

/-- The machine: the open containers, the innermost first, and the value once it is
complete. -/
structure Machine where
  expects : Expects
  frames : List Frame
  value : Value
  deriving Repr

/-- The number of containers that may not be open at a time. -/
def depthLimit : Nat := 128

namespace Machine

/-- In front of the first value. -/
def start : Machine := ⟨.value, [], .null⟩

/-- A value is complete: it goes into the innermost container. -/
def deliver (frames : List Frame) (v : Value) : Machine :=
  match frames with
  | [] => ⟨.nothing, [], v⟩
  | .items before :: frames => ⟨.commaOrEnd, .items (v :: before) :: frames, .null⟩
  | .members before key :: frames =>
    ⟨.commaOrEnd, .members ((key, v) :: before) [] :: frames, .null⟩

/-- Open a container. -/
def opened (frames : List Frame) (frame : Frame) (expects : Expects) : Option Machine :=
  if frames.length + 1 < depthLimit then some ⟨expects, frame :: frames, .null⟩ else none

/-- A value may stand here. -/
def expectsValue (m : Machine) : Bool :=
  m.expects == .value || m.expects == .itemOrEnd

/-- Take one lexeme. -/
def step (m : Machine) : Lexeme → Option Machine
  | .openArray => if m.expectsValue then opened m.frames (.items []) .itemOrEnd else none
  | .openObject => if m.expectsValue then opened m.frames (.members [] []) .keyOrEnd else none
  | .scalar v => if m.expectsValue then some (deliver m.frames v) else none
  | .string s =>
    if m.expectsValue then some (deliver m.frames (.text s))
    else if m.expects == .key || m.expects == .keyOrEnd then
      match m.frames with
      | .members before _ :: frames => some ⟨.colon, .members before s :: frames, .null⟩
      | _ => none
    else none
  | .colon => if m.expects == .colon then some { m with expects := .value } else none
  | .comma =>
    if m.expects == .commaOrEnd then
      match m.frames with
      | .items _ :: _ => some { m with expects := .value }
      | .members _ _ :: _ => some { m with expects := .key }
      | [] => none
    else none
  | .closeArray =>
    if m.expects == .commaOrEnd || m.expects == .itemOrEnd then
      match m.frames with
      | .items before :: frames => some (deliver frames (.array before.reverse))
      | _ => none
    else none
  | .closeObject =>
    if m.expects == .commaOrEnd || m.expects == .keyOrEnd then
      match m.frames with
      | .members before _ :: frames => some (deliver frames (.ofMembers before.reverse))
      | _ => none
    else none

/-- Take the lexemes one after the other. -/
def run (m : Machine) : List Lexeme → Option Machine
  | [] => some m
  | l :: ls => (m.step l).bind fun m => m.run ls

end Machine

end Read

/-- The value of a text that is JSON. -/
def Value.ofJson? (s : Text) : Option Value := do
  let lexemes ← Read.lexemes? s.length s
  let m ← Read.Machine.start.run lexemes
  if m.expects == .nothing then some m.value else none

end Directives
