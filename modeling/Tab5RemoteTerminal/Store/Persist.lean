/-
**Lists in JSON files** (`persist_to_disk` and the loading loop of `main/host_store.c` and
`main/wifi_creds.c`).

Both stores keep an array of records on LittleFS as one object with one array of flat objects, with
the same calls in the same order. `Outcomes` says what each call returns: an item that cannot be
allocated or added is left out, a failed print or `fopen` is reported, and `fputs` and `fclose` put
a first part of the text into the file that `fopen` has emptied. Loading itself does not fail.

* `loadItems_persist`: what is loaded from the file just written;
* `decode_items`: when the items loaded are the records saved, whatever a record is.
-/

import Tab5RemoteTerminal.Library.Json
import Tab5RemoteTerminal.Library.Slots

namespace Tab5

open Json

inductive EspErr where
  | ok
  | fail
  | noMem
  | invalidArg
deriving DecidableEq, Repr

/-- A file of the storage partition, `none` when it does not exist. -/
abbrev File := Option (List UInt8)

/-- The fields of a record, in the order in which they are added. -/
abbrev Fields := List (List UInt8 × Json)

/-- What the calls of `persist_to_disk` return: whether each object is created and each field of
each item added, and what of the text gets into the file. -/
structure Outcomes where
  root : Bool
  array : Bool
  item : Nat → Bool
  field : Nat → Nat → Bool
  print : Bool
  fopen : Bool
  /-- The number of bytes that fit, `none` for all. -/
  written : Option Nat

/-- Nothing fails. -/
def Outcomes.good : Outcomes where
  root := true
  array := true
  item := fun _ => true
  field := fun _ _ => true
  print := true
  fopen := true
  written := none

/-- `ESP_OK` is returned. -/
def Outcomes.Ok (o : Outcomes) : Prop := o.root = true ∧ o.print = true ∧ o.fopen = true

instance (o : Outcomes) : Decidable o.Ok := inferInstanceAs (Decidable (_ ∧ _))

/-- `for (i = …; i < count; i++)`: the items of the array, of the records from the `i`-th on. -/
def items (o : Outcomes) : Nat → List Fields → List Json
  | _, [] => []
  | i, fields :: records =>
      (if o.item i then [.object (addFields (o.field i) fields)] else []) ++ items o (i + 1) records

/-- The tree of `root`, when it is created. -/
def document (o : Outcomes) (name : List UInt8) (records : List Fields) : Json :=
  .object (if o.array then [(name, .array (items o 0 records))] else [])

/-- What is in the file after `fputs` and `fclose`. -/
def Outcomes.keep (o : Outcomes) (text : List UInt8) : List UInt8 :=
  match o.written with
  | none => text
  | some n => text.take n

/-- `persist_to_disk`, of the records under a name: its result, and the file after it. -/
def persist (codec : JsonCodec) (o : Outcomes) (name : List UInt8) (records : List Fields)
    (file : File) : EspErr × File :=
  -- `cJSON_PrintUnformatted(NULL)` is NULL
  if o.root = false ∨ o.print = false then (.noMem, file)
  else if o.fopen = false then (.fail, file)
  else (.ok, some (o.keep (codec.print (document o name records))))

/-- The items of the array that is loaded, none when there is no such array. -/
def loadItems (codec : JsonCodec) (name : List UInt8) (file : File) : List Json :=
  match file with
  | none => []
  | some bytes =>
      if bytes = [] then []
      else (((codec.parse bytes).bind fun root => root.getItem name).bind asArray).getD []

/-! ### What is written -/

theorem persist_ok {codec : JsonCodec} {o : Outcomes} (ok : o.Ok) (name : List UInt8)
    (records : List Fields) (file : File) :
    persist codec o name records file =
      (.ok, some (o.keep (codec.print (document o name records)))) := by
  obtain ⟨root, print, fopen⟩ := ok
  simp [persist, root, print, fopen]

theorem persist_fst (codec : JsonCodec) (o : Outcomes) (name : List UInt8) (records : List Fields)
    (file : File) : (persist codec o name records file).1 = .ok ↔ o.Ok := by
  unfold persist Outcomes.Ok
  cases o.root <;> cases o.print <;> cases o.fopen <;> simp

/-- Every record is flat. -/
def Flat (records : List Fields) : Prop :=
  ∀ fields ∈ records, ∀ field ∈ fields, 0 ∉ field.1 ∧ field.2.IsScalar

theorem mem_addFields {added : Nat → Bool} {fields : Fields} {field : List UInt8 × Json}
    (mem : field ∈ addFields added fields) : field ∈ fields := by
  induction fields generalizing added with
  | nil => exact mem
  | cons head fields ih =>
      rcases List.mem_append.mp mem with here | later
      · split at here
        · exact List.mem_cons.mpr (Or.inl (List.mem_singleton.mp here))
        · exact absurd here List.not_mem_nil
      · exact List.mem_cons_of_mem head (ih later)

theorem items_isRecord {o : Outcomes} {records : List Fields} (flat : Flat records) (i : Nat) :
    ∀ item ∈ items o i records, item.IsRecord := by
  induction records generalizing i with
  | nil => exact fun item mem => absurd mem List.not_mem_nil
  | cons fields records ih =>
      intro item mem
      rcases List.mem_append.mp mem with here | later
      · split at here
        · rw [List.mem_singleton.mp here]
          exact fun field inside => flat fields List.mem_cons_self field (mem_addFields inside)
        · exact absurd here List.not_mem_nil
      · exact ih (fun fields mem => flat fields (List.mem_cons_of_mem _ mem)) (i + 1) item later

theorem document_isDocument (o : Outcomes) {name : List UInt8} (noNul : 0 ∉ name)
    {records : List Fields} (flat : Flat records) : (document o name records).IsDocument := by
  unfold document
  split
  · exact ⟨noNul, items_isRecord flat 0⟩
  · trivial

/-- Every byte of the text gets into the file. -/
def Outcomes.Whole (o : Outcomes) (text : List UInt8) : Prop := o.keep text = text

instance (o : Outcomes) (text : List UInt8) : Decidable (o.Whole text) :=
  inferInstanceAs (Decidable (_ = _))

/-- Whatever of the text gets into the file, it reads as nothing if it is not whole. -/
theorem parse_part {codec : JsonCodec} (faithful : codec.Faithful) {doc : Json}
    (isDoc : doc.IsDocument) {o : Outcomes} (part : ¬ o.Whole (codec.print doc)) :
    codec.parse (o.keep (codec.print doc)) = none := by
  unfold Outcomes.Whole Outcomes.keep at *
  cases written : o.written with
  | none => exact absurd (by rw [written]) part
  | some n =>
      rw [written] at part
      refine faithful.parse_part doc isDoc n ?_
      by_contra long
      exact part (List.take_of_length_le (Nat.not_lt.mp long))

/-- **What is loaded from the file just written**: the items, if the array was created and the text
is whole. -/
theorem loadItems_saved {codec : JsonCodec} (faithful : codec.Faithful) {o : Outcomes}
    {name : List UInt8} (noNul : 0 ∉ name) {records : List Fields} (flat : Flat records)
    (array : o.array = true) (whole : o.Whole (codec.print (document o name records))) :
    loadItems codec name (some (o.keep (codec.print (document o name records)))) =
      items o 0 records := by
  have isDoc := document_isDocument o noNul flat
  rw [show o.keep _ = _ from whole, loadItems, if_neg (faithful.print_ne_nil isDoc),
    faithful.parse_print _ isDoc]
  simp [document, array, getItem, findMember, sameName, asArray]

/-- Else nothing is loaded. -/
theorem loadItems_lost {codec : JsonCodec} (faithful : codec.Faithful) {o : Outcomes}
    {name : List UInt8} (noNul : 0 ∉ name) {records : List Fields} (flat : Flat records)
    (lost : ¬ (o.array = true ∧ o.Whole (codec.print (document o name records)))) :
    loadItems codec name (some (o.keep (codec.print (document o name records)))) = [] := by
  have isDoc := document_isDocument o noNul flat
  rw [loadItems]
  split
  · rfl
  · by_cases whole : o.Whole (codec.print (document o name records))
    · have noArray : o.array = false := by
        cases array : o.array with
        | false => rfl
        | true => exact absurd ⟨array, whole⟩ lost
      rw [show o.keep _ = _ from whole, faithful.parse_print _ isDoc]
      simp [document, noArray, getItem, findMember]
    · rw [parse_part faithful isDoc whole]
      rfl

theorem items_length (o : Outcomes) (i : Nat) (records : List Fields) :
    (items o i records).length ≤ records.length := by
  induction records generalizing i with
  | nil => exact Nat.le_refl 0
  | cons fields records ih =>
      have rest := ih (i + 1)
      rw [items, List.length_append, List.length_cons]
      split
      · rw [List.length_singleton]
        omega
      · rw [List.length_nil]
        omega

/-- No more items are loaded than were saved. -/
theorem loadItems_length {codec : JsonCodec} (faithful : codec.Faithful) {o : Outcomes}
    {name : List UInt8} (noNul : 0 ∉ name) {records : List Fields} (flat : Flat records) :
    (loadItems codec name (some (o.keep (codec.print (document o name records))))).length ≤
      records.length := by
  by_cases saved : o.array = true ∧ o.Whole (codec.print (document o name records))
  · rw [loadItems_saved faithful noNul flat saved.1 saved.2]
    exact items_length o 0 records
  · rw [loadItems_lost faithful noNul flat saved]
    exact Nat.zero_le _

/-! ### Which records are loaded -/

section

variable {α : Type} {decode : Json → Option α} {fieldsOf : α → Fields}

/-- A record is added, with what is needed to decode it. -/
def Outcomes.Keeps (o : Outcomes) (decode : Json → Option α) (fieldsOf : α → Fields) (i : Nat)
    (record : α) : Prop :=
  o.item i = true ∧ decode (.object (addFields (o.field i) (fieldsOf record))) = some record

theorem decode_items_cons (o : Outcomes) (i : Nat) (record : α) (records : List α) :
    (items o i ((record :: records).map fieldsOf)).filterMap decode = record :: records ↔
      o.Keeps decode fieldsOf i record ∧
        (items o (i + 1) (records.map fieldsOf)).filterMap decode = records := by
  have tooShort : (items o (i + 1) (records.map fieldsOf)).filterMap decode ≠
      record :: records := by
    intro same
    have shorter := (List.length_filterMap_le decode _).trans
      (items_length o (i + 1) (records.map fieldsOf))
    rw [same, List.length_cons, List.length_map] at shorter
    exact Nat.not_succ_le_self _ shorter
  rw [List.map_cons, items, List.filterMap_append, Outcomes.Keeps]
  cases added : o.item i with
  | false => exact iff_of_false tooShort fun keeps => absurd keeps.1.1 (by simp)
  | true =>
      cases decoded : decode (.object (addFields (o.field i) (fieldsOf record))) with
      | none =>
          refine iff_of_false ?_ fun keeps => absurd keeps.1.2 (by simp)
          simpa [decoded] using tooShort
      | some other => simp [decoded]

/-- **When the items loaded are the records saved**: every one of them is kept. -/
theorem decode_items (o : Outcomes) (i : Nat) (records : List α) :
    (items o i (records.map fieldsOf)).filterMap decode = records ↔
      ∀ k record, records[k]? = some record → o.Keeps decode fieldsOf (i + k) record := by
  induction records generalizing i with
  | nil => simp [items]
  | cons record records ih =>
      rw [decode_items_cons, ih (i + 1)]
      constructor
      · rintro ⟨head, tail⟩ k other at_k
        cases k with
        | zero =>
            rw [← Option.some.inj at_k]
            exact head
        | succ k =>
            have keeps := tail k other at_k
            rwa [Nat.add_assoc, Nat.add_comm 1 k] at keeps
      · intro all
        refine ⟨all 0 record rfl, fun k other at_k => ?_⟩
        have keeps := all (k + 1) other at_k
        rwa [Nat.add_comm k 1, ← Nat.add_assoc] at keeps

/-- **A list of records is what is loaded after it is saved**: nothing was there to lose, or the
array was created, every record kept and the whole text written. -/
theorem loadItems_iff {codec : JsonCodec} (faithful : codec.Faithful) {o : Outcomes}
    {name : List UInt8} (noNul : 0 ∉ name) {records : List α} (flat : Flat (records.map fieldsOf)) :
    (loadItems codec name
        (some (o.keep (codec.print (document o name (records.map fieldsOf)))))).filterMap decode =
        records ↔
      records = [] ∨ (o.array = true ∧
        o.Whole (codec.print (document o name (records.map fieldsOf))) ∧
        ∀ k record, records[k]? = some record → o.Keeps decode fieldsOf k record) := by
  by_cases saved : o.array = true ∧ o.Whole (codec.print (document o name (records.map fieldsOf)))
  · rw [loadItems_saved faithful noNul flat saved.1 saved.2, decode_items]
    simp only [Nat.zero_add]
    constructor
    · exact fun all => Or.inr ⟨saved.1, saved.2, all⟩
    · rintro (rfl | ⟨_, _, all⟩)
      · intro k record at_k
        simp at at_k
      · exact all
  · rw [loadItems_lost faithful noNul flat saved, List.filterMap_nil]
    constructor
    · exact fun same => Or.inl same.symm
    · rintro (rfl | ⟨array, whole, _⟩)
      · rfl
      · exact absurd ⟨array, whole⟩ saved

end

end Tab5
