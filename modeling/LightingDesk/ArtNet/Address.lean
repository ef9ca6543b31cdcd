/-!
Socket addresses: an address of the fourth or sixth version of the internet protocol, and a port.
Octets have no leading zeros; an address of the sixth version stands in brackets, may leave out one
run of zero groups and may end in the form of the fourth version.
-/

namespace LightingDesk.ArtNet

inductive SocketAddress where
  | v4 (octets : List Nat) (port : Nat)
  | v6 (groups : List Nat) (scope port : Nat)
deriving DecidableEq, Repr

namespace SocketAddress

def digitValue? (base : Nat) (c : Char) : Option Nat :=
  let value :=
    if '0' ≤ c ∧ c ≤ '9' then some (c.toNat - 48)
    else if 'a' ≤ c ∧ c ≤ 'f' then some (c.toNat - 87)
    else if 'A' ≤ c ∧ c ≤ 'F' then some (c.toNat - 55)
    else none
  value.bind fun value => if value < base then some value else none

/-- A number below `bound`, with at most `count` digits if a count is given. -/
def takeNumber (base bound : Nat) (count : Option Nat) (zeros : Bool) (text : List Char) :
    Option (Nat × List Char) :=
  let run := text.takeWhile fun c => (digitValue? base c).isSome
  let value := run.foldl (fun value c => value * base + (digitValue? base c).getD 0) 0
  if run.isEmpty || count.any (· < run.length) || bound ≤ value then none
  else if !zeros && 1 < run.length && run.head? == some '0' then none
  else some (value, text.drop run.length)

def takeSymbol (symbol : Char) : List Char → Option (List Char)
  | c :: rest => if c = symbol then some rest else none
  | [] => none

def takeOctet (text : List Char) : Option (Nat × List Char) :=
  takeNumber 10 256 (some 3) false text

def takeV4 (text : List Char) : Option (List Nat × List Char) := do
  let (a, rest) ← takeOctet text
  let rest ← takeSymbol '.' rest
  let (b, rest) ← takeOctet rest
  let rest ← takeSymbol '.' rest
  let (c, rest) ← takeOctet rest
  let rest ← takeSymbol '.' rest
  let (d, rest) ← takeOctet rest
  some ([a, b, c, d], rest)

/-- Up to `room` groups, separated by colons; the last two may be written as four octets. Also
tells whether they were. -/
def takeGroups : (room : Nat) → (first : Bool) → List Char → List Nat × Bool × List Char
  | 0, _, text => ([], false, text)
  | room + 1, first, text =>
      match if first then some text else takeSymbol ':' text with
      | none => ([], false, text)
      | some rest =>
          match if room = 0 then none else takeV4 rest with
          | some ([a, b, c, d], rest) => ([a * 256 + b, c * 256 + d], true, rest)
          | _ =>
              match takeNumber 16 65536 (some 4) true rest with
              | none => ([], false, text)
              | some (group, rest) =>
                  let (groups, octets, rest) := takeGroups room false rest
                  (group :: groups, octets, rest)

def takeV6 (text : List Char) : Option (List Nat × List Char) :=
  let (head, octets, rest) := takeGroups 8 true text
  if head.length = 8 then some (head, rest)
  else if octets then none
  else
    match rest with
    | ':' :: ':' :: rest =>
        let (tail, _, rest) := takeGroups (7 - head.length) true rest
        some (head ++ List.replicate (8 - head.length - tail.length) 0 ++ tail, rest)
    | _ => none

def takePort (text : List Char) : Option (Nat × List Char) := do
  takeNumber 10 65536 none true (← takeSymbol ':' text)

def parseV4 (text : List Char) : Option SocketAddress := do
  let (octets, rest) ← takeV4 text
  let (port, rest) ← takePort rest
  if rest.isEmpty then some (.v4 octets port) else none

def parseV6 (text : List Char) : Option SocketAddress := do
  let (groups, rest) ← takeV6 (← takeSymbol '[' text)
  let (scope, rest) ← match rest with
    | '%' :: rest => takeNumber 10 UInt32.size none true rest
    | rest => some (0, rest)
  let (port, rest) ← takePort (← takeSymbol ']' rest)
  if rest.isEmpty then some (.v6 groups scope port) else none

def parse? (text : String) : Option SocketAddress :=
  match parseV4 text.toList with
  | some address => some address
  | none => parseV6 text.toList

def dotted (octets : List Nat) : String := String.intercalate "." (octets.map toString)

def hexText (value : Nat) : String := String.ofList (Nat.toDigits 16 value)

/-- The length of the zero groups that a list begins with. -/
def zeroRun (groups : List Nat) : Nat := (groups.takeWhile (· == 0)).length

/-- Where the first of the longest runs of zero groups begins, and how long it is. -/
def longestZeroRun : (offset : Nat) → List Nat → Nat × Nat
  | _, [] => (0, 0)
  | offset, group :: rest =>
      let here := zeroRun (group :: rest)
      let later := longestZeroRun (offset + 1) rest
      if later.2 ≤ here then (offset, here) else later

def groupsText (groups : List Nat) : String := String.intercalate ":" (groups.map hexText)

def v6Text (groups : List Nat) : String :=
  match groups with
  | [0, 0, 0, 0, 0, 0xffff, high, low] =>
      "::ffff:" ++ dotted [high / 256, high % 256, low / 256, low % 256]
  | groups =>
      let (start, length) := longestZeroRun 0 groups
      if 1 < length then
        groupsText (groups.take start) ++ "::" ++ groupsText (groups.drop (start + length))
      else groupsText groups

def render : SocketAddress → String
  | v4 octets port => s!"{dotted octets}:{port}"
  | v6 groups scope port =>
      "[" ++ v6Text groups ++ (if scope = 0 then "" else s!"%{scope}") ++ s!"]:{port}"

end SocketAddress

end LightingDesk.ArtNet
