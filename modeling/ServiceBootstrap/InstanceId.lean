/-!
Identifiers of instances: 128 bits, shown as thirty-two hexadecimal digits in five groups.
-/

namespace ServiceBootstrap

structure InstanceId where
  bits : BitVec 128
  deriving DecidableEq, Repr, Inhabited

namespace InstanceId

def ofNat (n : Nat) : InstanceId := ⟨BitVec.ofNat 128 n⟩

/-- Bits taken at random, under the mark that random identifiers carry: a four in front of the
third group, and the two bits one and zero in front of the fourth. -/
def random (bits : BitVec 128) : InstanceId :=
  ⟨(bits &&& ~~~(0xf#128 <<< 76 ||| 3#128 <<< 62)) ||| 4#128 <<< 76 ||| 2#128 <<< 62⟩

/-- The lengths of the groups of digits. -/
def groups : List Nat := [8, 4, 4, 4, 12]

/-- Cuts a list into parts of the given lengths. -/
def cut : List Nat → List Char → List (List Char)
  | [], _ => []
  | n :: ns, cs => cs.take n :: cut ns (cs.drop n)

def digits (id : InstanceId) : List Char :=
  let ds := Nat.toDigits 16 id.bits.toNat
  List.replicate (32 - ds.length) '0' ++ ds

def text (id : InstanceId) : String :=
  String.intercalate "-" ((cut groups id.digits).map String.ofList)

def hexValue? (c : Char) : Option Nat :=
  if '0' ≤ c ∧ c ≤ '9' then some (c.toNat - '0'.toNat)
  else if 'a' ≤ c ∧ c ≤ 'f' then some (c.toNat - 'a'.toNat + 10)
  else if 'A' ≤ c ∧ c ≤ 'F' then some (c.toNat - 'A'.toNat + 10)
  else none

/-- Reads the five groups, in either case of the letters; nothing else is an identifier. -/
def ofText? (s : String) : Option InstanceId := do
  let parts := s.splitOn "-"
  guard (parts.map String.length = groups)
  let values ← (parts.flatMap String.toList).mapM hexValue?
  return ofNat (values.foldl (fun n d => 16 * n + d) 0)

end InstanceId

end ServiceBootstrap
