/-
**JSON documents through a C library.**

`Json` is the tree a library such as cJSON builds and reads: names and strings are byte strings, a
number carries an integer, a member is found by the first name that matches up to the case of ASCII
letters. The printer and the parser are parameters (`JsonCodec`). `Faithful` is what is asked of
them, on flat documents only: what is printed is parsed back, no proper first part of what is
printed is parsed, and neither is the empty text.

* `addFields`: an object filled by one call after another, each of which may fail;
* `getItem_addFields`: a field is there exactly if its call succeeded.
-/

import Mathlib.Data.List.Basic
import Tab5RemoteTerminal.Library.CString

/-- A tree of cJSON items. -/
inductive Json where
  | null
  | bool (value : Bool)
  | number (value : Int)
  | string (value : List UInt8)
  | array (items : List Json)
  | object (members : List (List UInt8 × Json))

namespace Json

/-! ### Reading -/

/-- `tolower` of the C locale. -/
def lowerByte (c : UInt8) : UInt8 := if 0x41 ≤ c ∧ c ≤ 0x5A then c + 0x20 else c

/-- Names are compared without regard to case. -/
def sameName (first second : List UInt8) : Bool :=
  first.map lowerByte = second.map lowerByte

def findMember (members : List (List UInt8 × Json)) (name : List UInt8) : Option Json :=
  (members.find? fun member => sameName name member.1).map (·.2)

/-- `cJSON_GetObjectItem`: what is no object has no named children. -/
def getItem : Json → List UInt8 → Option Json
  | .object members, name => findMember members name
  | _, _ => none

/-- `cJSON_IsArray`, with what `cJSON_ArrayForEach` then visits. -/
def asArray : Json → Option (List Json)
  | .array items => some items
  | _ => none

/-- `cJSON_IsString`, with `valuestring`. -/
def asString : Json → Option (List UInt8)
  | .string value => some value
  | _ => none

/-- `cJSON_IsNumber`, with `valueint`, which stops at the ends of a 32-bit `int`. -/
def asNumber : Json → Option Int
  | .number value => some (max (-2147483648) (min value 2147483647))
  | _ => none

/-! ### Building -/

/-- The members of an object after one `cJSON_Add…ToObject` for each field, where `added j` is
whether the `j`-th succeeds. -/
def addFields (added : Nat → Bool) : List (List UInt8 × Json) → List (List UInt8 × Json)
  | [] => []
  | field :: fields =>
      (if added 0 then [field] else []) ++ addFields (fun j => added (j + 1)) fields

theorem sameName_comm (first second : List UInt8) :
    sameName first second = sameName second first := by
  simp [sameName, eq_comm]

theorem findMember_append (first rest : List (List UInt8 × Json)) (name : List UInt8) :
    findMember (first ++ rest) name = (findMember first name).or (findMember rest name) := by
  rw [findMember, List.find?_append]
  cases found : first.find? fun member => sameName name member.1 with
  | none => simp [findMember, found]
  | some member => simp [findMember, found]

/-- A name that no field has is not found. -/
theorem findMember_addFields_none {added : Nat → Bool} {fields : List (List UInt8 × Json)}
    {name : List UInt8} (other : ∀ field ∈ fields, sameName name field.1 = false) :
    findMember (addFields added fields) name = none := by
  induction fields generalizing added with
  | nil => rfl
  | cons field fields ih =>
      have head := other field List.mem_cons_self
      have tail : findMember (addFields (fun j => added (j + 1)) fields) name = none :=
        ih fun field mem => other field (List.mem_cons_of_mem _ mem)
      rw [addFields, findMember_append, tail]
      split <;> simp [findMember, head]

/-- **A field is there exactly if its call succeeded**, when the names differ. -/
theorem findMember_addFields {added : Nat → Bool} {fields : List (List UInt8 × Json)}
    (distinct : fields.Pairwise fun first second => sameName second.1 first.1 = false) {j : Nat}
    {field : List UInt8 × Json} (at_j : fields[j]? = some field) :
    findMember (addFields added fields) field.1 = if added j then some field.2 else none := by
  induction fields generalizing added j with
  | nil => simp at at_j
  | cons head fields ih =>
      obtain ⟨first, rest⟩ := List.pairwise_cons.mp distinct
      rw [addFields, findMember_append]
      cases j with
      | zero =>
          cases Option.some.inj at_j
          have noRest : findMember (addFields (fun j => added (j + 1)) fields) field.1 = none :=
            findMember_addFields_none fun other mem =>
              (sameName_comm field.1 other.1).trans (first other mem)
          rw [noRest]
          split <;> simp [findMember, sameName]
      | succ j =>
          have mem : field ∈ fields := List.mem_of_getElem? at_j
          have noHead : findMember (if added 0 then [head] else []) field.1 = none := by
            split <;> simp [findMember, first field mem]
          rw [noHead]
          exact ih rest at_j

/-! ### Flat documents -/

/-- A string without zeros, or an integer of 16 bits. -/
def IsScalar : Json → Prop
  | .string value => 0 ∉ value
  | .number value => 0 ≤ value ∧ value ≤ 65535
  | _ => False

def IsRecord : Json → Prop
  | .object members => ∀ member ∈ members, 0 ∉ member.1 ∧ member.2.IsScalar
  | _ => False

/-- An object of at most one array of records. -/
def IsDocument : Json → Prop
  | .object [] => True
  | .object [(name, .array items)] => 0 ∉ name ∧ ∀ item ∈ items, item.IsRecord
  | _ => False

instance : DecidablePred IsScalar := fun value => by
  unfold IsScalar
  split <;> infer_instance

instance : DecidablePred IsRecord := fun record => by
  unfold IsRecord
  split <;> infer_instance

instance : DecidablePred IsDocument := fun doc => by
  unfold IsDocument
  split <;> infer_instance

end Json

/-- `cJSON_PrintUnformatted`, when its allocations succeed, and `cJSON_Parse`. -/
structure JsonCodec where
  print : Json → List UInt8
  parse : List UInt8 → Option Json

/-- What is printed is read back, and no first part of it reads as anything. -/
structure JsonCodec.Faithful (codec : JsonCodec) : Prop where
  parse_print : ∀ doc : Json, doc.IsDocument → codec.parse (codec.print doc) = some doc
  parse_part : ∀ doc : Json, doc.IsDocument → ∀ n, n < (codec.print doc).length →
    codec.parse ((codec.print doc).take n) = none
  parse_nil : codec.parse [] = none

theorem JsonCodec.Faithful.print_ne_nil {codec : JsonCodec} (faithful : codec.Faithful) {doc : Json}
    (isDoc : doc.IsDocument) : codec.print doc ≠ [] := by
  intro nothing
  have back := faithful.parse_print doc isDoc
  rw [nothing, faithful.parse_nil] at back
  cases back
