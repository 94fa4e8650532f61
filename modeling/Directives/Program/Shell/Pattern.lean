import Directives.Program.CharClass

/-! Patterns of file names and choices.

A star stands for any bytes, a question mark for one, and brackets for one of those in
them. Quoted characters stand for themselves. -/
namespace Directives.Program.Shell

/-- Characters, each of which knows whether it stands for itself only. -/
abbrev Glob := List (Char × Bool)

/-- What stands between brackets. -/
inductive Member where
  | range (low high : Char)
  | named (cls : CharClass)
  deriving DecidableEq, Repr

/-- A piece of a pattern. -/
inductive PatternItem where
  | any
  | one
  | exact (c : Char)
  | oneOf (inverted : Bool) (members : List Member)
  deriving DecidableEq, Repr

/-- A pattern. -/
abbrev Pattern := List PatternItem

/-- The number of a byte that has a sign. -/
def signedByte (c : Char) : Int :=
  if c.toNat < 128 then c.toNat else (c.toNat : Int) - 256

/-- Whether a byte is one of those that a member stands for. -/
def Member.has : Member → Char → Bool
  | .range low high, c => signedByte low ≤ signedByte c && signedByte c ≤ signedByte high
  | .named cls, c => cls.has c

namespace Glob

/-- Every backslash that does not stand for itself makes the next character do so. -/
def resolved : Glob → Glob
  | ('\\', false) :: (c, _) :: rest => (c, true) :: resolved rest
  | ('\\', false) :: [] => [('\\', true)]
  | c :: rest => c :: resolved rest
  | [] => []

/-- The class behind an opening bracket, and what follows it. -/
def namedClass? (g : Glob) : Option (CharClass × Glob) :=
  CharClass.named.findSome? fun (name, cls) =>
    let written := (':' :: name ++ [':', ']']).map fun c => (c, false)
    if written.isPrefixOf g then some (cls, g.drop written.length) else none

/-- The members up to the closing bracket and what follows it, if there is one. The first
character is a member at any rate. -/
def members? : Nat → Glob → Option (List Member × Glob)
  | 0, _ => none
  | _, [] => none
  | tries + 1, (c, quoted) :: rest =>
    let (member, rest) : Member × Glob :=
      match if c = '[' && !quoted then namedClass? rest else none with
      | some (cls, rest) => (.named cls, rest)
      | none =>
        match rest with
        | ('-', false) :: (high, highQuoted) :: behind =>
          if high = ']' && !highQuoted then (.range c c, rest) else (.range c high, behind)
        | _ => (.range c c, rest)
    match rest with
    | (']', false) :: behind => some ([member], behind)
    | _ => (members? tries rest).map fun (members, behind) => (member :: members, behind)

/-- The pattern that characters write, in at most `tries` steps. -/
def itemsIn : Nat → Glob → Pattern
  | 0, _ => []
  | _, [] => []
  | tries + 1, (c, quoted) :: rest =>
    if quoted then .exact c :: itemsIn tries rest
    else if c = '*' then .any :: itemsIn tries rest
    else if c = '?' then .one :: itemsIn tries rest
    else if c = '[' then
      let (inverted, inside) := match rest with
        | ('!', false) :: rest => (true, rest)
        | _ => (false, rest)
      match members? inside.length inside with
      | some (members, behind) => .oneOf inverted members :: itemsIn tries behind
      | none => .exact c :: itemsIn tries rest
    else .exact c :: itemsIn tries rest

/-- The pattern that characters write. -/
def pattern (g : Glob) : Pattern :=
  itemsIn g.length g.resolved

/-- The characters alone. -/
def text (g : Glob) : Text :=
  g.map (·.1)

/-- The pattern of characters that stand for themselves. -/
def ofText (s : Text) : Glob :=
  s.map fun c => (c, true)

end Glob

/-- The ends of a text, the longest one first. -/
def ends : Text → List Text
  | [] => [[]]
  | c :: s => (c :: s) :: ends s

namespace Pattern

/-- Whether a text is one that the pattern stands for. -/
def covers : Pattern → Text → Bool
  | [], s => s.isEmpty
  | .any :: items, s => (ends s).any (covers items)
  | .one :: items, _ :: s => covers items s
  | .exact d :: items, c :: s => c = d && covers items s
  | .oneOf inverted members :: items, c :: s =>
    (members.any (·.has c)) != inverted && covers items s
  | _, _ => false

/-- Whether anything in the pattern stands for more than itself. -/
def isOpen (p : Pattern) : Bool :=
  p.any fun
    | .exact _ => false
    | _ => true

/-- What a pattern sees of a text: all in front of a zero byte, which keeps parameters apart. -/
def seen (s : Text) : Text :=
  s.takeWhile (· ≠ '\x00')

/-- The text without the start that the pattern covers, the longest one or the shortest. -/
def dropStart (p : Pattern) (longest : Bool) (s : Text) : Text :=
  let cuts := (List.range (s.length + 1)).filter fun n => covers p (seen (s.take n))
  match if longest then cuts.getLast? else cuts.head? with
  | some n => s.drop n
  | none => s

/-- The text without the end that the pattern covers, the longest one or the shortest. The longest
one begins with what is seen of the text. -/
def dropEnd (p : Pattern) (longest : Bool) (s : Text) : Text :=
  let last := if longest then (seen s).length else s.length
  let cuts := (List.range (last + 1)).filter fun n => covers p (seen (s.drop n))
  match if longest then cuts.head? else cuts.getLast? with
  | some n => s.take n
  | none => s

end Pattern
end Directives.Program.Shell
