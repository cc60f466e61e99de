/-
**What saving and loading do to memory and files** (`persist_to_disk` and `load_from_disk` of
`main/host_store.c`, `persist_to_disk` and `wifi_creds_init` of `main/wifi_creds.c`).

The two stores as the calls they make, with what these return as arguments. `cJSON_AddItemToArray`
hands an item to the tree, if there is an array; without one the item stays where it was created,
and nobody deletes it.

* `StoreOp.comesTo`: what the calls of a save or a load come to is what `persist` and `loadItems` say;
* `store_custody`: over any run of saves and loads that is so of each, and what is never given back is
  the items of the saves whose array could not be added.
-/

import Tab5RemoteTerminal.Library.Calls
import Tab5RemoteTerminal.Store.Persist

namespace Tab5

open Calls Ledger Json

/-! ### Calls and what they do -/

inductive StoreResource where
  | root
  | text
  | file
  | buf
  /-- The `i`-th item of a save. -/
  | item (save i : Nat)
deriving DecidableEq, Repr

/-- The calls; a flag says whether what is asked for, or passed, is there. -/
inductive StoreCall where
  | createRoot (ok : Bool)
  /-- `cJSON_AddArrayToObject` -/
  | addArray (root : Bool)
  | createItem (save i : Nat) (ok : Bool)
  /-- `cJSON_AddStringToObject` or `cJSON_AddNumberToObject` -/
  | addField (save i : Nat) (item : Bool)
  /-- `cJSON_AddItemToArray` -/
  | addItem (save i : Nat) (item arr : Bool)
  | print (root ok : Bool)
  | deleteRoot (root : Bool)
  | fopen (ok : Bool)
  | fputs
  | fclose
  | freeText
  /-- `fseek` and `ftell` -/
  | size
  | malloc (ok : Bool)
  | fread
  | parse (ok : Bool)
  | freeBuf
  | getItems
deriving DecidableEq, Repr

/-- What a call needs, takes and gives back. -/
def StoreCall.ledger : StoreCall → List (Event StoreResource)
  | .createRoot ok => if ok then [.take .root] else []
  | .addArray root => if root then [.use .root] else []
  | .createItem save i ok => if ok then [.take (.item save i)] else []
  | .addField save i item => if item then [.use (.item save i)] else []
  | .addItem save i item arr => if item ∧ arr then [.use .root, .give (.item save i)] else []
  | .print root ok => if root then .use .root :: if ok then [.take .text] else [] else []
  | .deleteRoot root => if root then [.give .root] else []
  | .fopen ok => if ok then [.take .file] else []
  | .fputs => [.use .text, .use .file]
  | .fclose => [.give .file]
  | .freeText => [.give .text]
  | .size => [.use .file]
  | .malloc ok => if ok then [.take .buf] else []
  | .fread => [.use .file, .use .buf]
  | .parse ok => .use .buf :: if ok then [.take .root] else []
  | .freeBuf => [.give .buf]
  | .getItems => [.use .root]

abbrev StoreCode := Code StoreCall

/-! ### Saving -/

/-- The body of the loop over the records. -/
def persistItem (save : Nat) (o : Outcomes) (i : Nat) (fields : Fields) : StoreCode EspErr Unit := do
  call (.createItem save i (o.item i))
  each (fields.map fun _ => .addField save i (o.item i))
  call (.addItem save i (o.item i) (o.root && o.array))

def persistItems (save : Nat) (o : Outcomes) : Nat → List Fields → StoreCode EspErr Unit
  | _, [] => pure ()
  | i, fields :: records => do
      persistItem save o i fields
      persistItems save o (i + 1) records

/-- `persist_to_disk`: the file, or the error it returns. -/
def persistCode (codec : JsonCodec) (save : Nat) (o : Outcomes) (name : List UInt8)
    (records : List Fields) : StoreCode EspErr File := do
  call (.createRoot o.root)
  call (.addArray o.root)
  persistItems save o 0 records
  call (.print o.root o.print)
  call (.deleteRoot o.root)
  if o.root = false ∨ o.print = false then leave .noMem
  else if o.fopen = false then do
    call (.fopen false)
    call .freeText
    leave .fail
  else do
    call (.fopen true)
    call .fputs
    call .fclose
    call .freeText
    pure (some (o.keep (codec.print (document o name records))))

/-! ### Loading -/

/-- `load_from_disk` and `wifi_creds_init`, up to the loop over the items: these, or an early
return. -/
def loadCode (codec : JsonCodec) (malloc : Bool) (name : List UInt8) (file : File) :
    StoreCode Unit (List Json) := do
  call (.fopen file.isSome)
  match file with
  | none => leave ()
  | some bytes =>
      call .size
      if bytes = [] then do
        call .fclose
        leave ()
      else if malloc = false then do
        call (.malloc false)
        call .fclose
        leave ()
      else do
        call (.malloc true)
        call .fread
        call .fclose
        call (.parse (codec.parse bytes).isSome)
        call .freeBuf
        match codec.parse bytes with
        | none => leave ()
        | some root =>
            call .getItems
            call (.deleteRoot true)
            pure (((root.getItem name).bind asArray).getD [])

/-! ### What the calls come to -/

theorem persistItems_ok (save : Nat) (o : Outcomes) (i : Nat) (records : List Fields) :
    (persistItems save o i records).result = .ok () := by
  induction records generalizing i with
  | nil => rfl
  | cons fields records ih => exact ih (i + 1)

/-- The items have an array to go to. -/
def Outcomes.attached (o : Outcomes) : Bool := o.root && o.array

def createdItem (save : Nat) (o : Outcomes) (i : Nat) : List StoreResource :=
  if o.item i then [.item save i] else []

/-- The items created for the records from the `i`-th on, the last one first. -/
def createdItems (save : Nat) (o : Outcomes) : Nat → List Fields → List StoreResource
  | _, [] => []
  | i, _ :: records => createdItems save o (i + 1) records ++ createdItem save o i

theorem mem_createdItem {save : Nat} {o : Outcomes} {i : Nat} {r : StoreResource} :
    r ∈ createdItem save o i ↔ o.item i = true ∧ r = .item save i := by
  unfold createdItem
  split <;> simp [*]

theorem mem_createdItems {save : Nat} {o : Outcomes} {i : Nat} {records : List Fields}
    {r : StoreResource} :
    r ∈ createdItems save o i records ↔
      ∃ j, i ≤ j ∧ j < i + records.length ∧ o.item j = true ∧ r = .item save j := by
  induction records generalizing i with
  | nil =>
      constructor
      · exact fun mem => absurd mem List.not_mem_nil
      · rintro ⟨j, low, high, -⟩
        rw [List.length_nil] at high
        omega
  | cons fields records ih =>
      rw [createdItems, List.mem_append, ih, mem_createdItem, List.length_cons]
      constructor
      · rintro (⟨j, low, high, created, rfl⟩ | ⟨created, rfl⟩)
        · exact ⟨j, by omega, by omega, created, rfl⟩
        · exact ⟨i, by omega, by omega, created, rfl⟩
      · rintro ⟨j, low, high, created, rfl⟩
        by_cases first : j = i
        · subst first
          exact .inr ⟨created, rfl⟩
        · exact .inl ⟨j, by omega, by omega, created, rfl⟩

theorem persistItem_settles {save : Nat} {o : Outcomes} {i : Nat} {held : List StoreResource}
    (free : .item save i ∉ held) (root : o.attached = true → .root ∈ held) (fields : Fields) :
    settle held ((persistItem save o i fields).calls.flatMap StoreCall.ledger) =
      some ((if o.attached then [] else createdItem save o i) ++ held) := by
  have calls : (persistItem save o i fields).calls = .createItem save i (o.item i) ::
      (fields.map fun _ => .addField save i (o.item i)) ++
        [.addItem save i (o.item i) o.attached] := rfl
  rw [calls]
  simp only [List.flatMap_append, List.flatMap_cons, List.flatMap_nil, List.append_nil,
    List.flatMap_map, createdItem, StoreCall.ledger]
  cases created : o.item i with
  | false =>
      have quiet : settle held (fields.flatMap fun _ => []) = some held :=
        settle_uses fun e mem => by simp at mem
      simpa using quiet
  | true =>
      have uses : settle (.item save i :: held) (fields.flatMap fun _ => [.use (.item save i)]) =
          some (.item save i :: held) := by
        refine settle_uses fun e mem => ⟨.item save i, List.mem_cons_self, ?_⟩
        obtain ⟨_, _, inside⟩ := List.mem_flatMap.mp mem
        exact List.mem_singleton.mp inside
      have taken : settle held ([.take (.item save i)] ++
          fields.flatMap fun _ => [.use (.item save i)]) = some (.item save i :: held) :=
        settle_then (settle_take free []) uses
      refine settle_then taken ?_
      cases attached : o.attached with
      | false => rfl
      | true =>
          have used : settle (.item save i :: held) [.use .root] = some (.item save i :: held) := by
            refine settle_uses fun e mem => ⟨.root, List.mem_cons_of_mem _ (root attached), ?_⟩
            exact List.mem_singleton.mp mem
          exact settle_then used (settle_give held (.item save i) [])

theorem persistItems_settles {save : Nat} {o : Outcomes} {i : Nat} {held : List StoreResource}
    (free : ∀ j, i ≤ j → .item save j ∉ held) (root : o.attached = true → .root ∈ held)
    (records : List Fields) :
    settle held ((persistItems save o i records).calls.flatMap StoreCall.ledger) =
      some ((if o.attached then [] else createdItems save o i records) ++ held) := by
  induction records generalizing i held with
  | nil =>
      show some held = some ((if o.attached then [] else []) ++ held)
      rw [ite_self, List.nil_append]
  | cons fields records ih =>
      have calls : (persistItems save o i (fields :: records)).calls =
          (persistItem save o i fields).calls ++ (persistItems save o (i + 1) records).calls := rfl
      have first := persistItem_settles (free i (Nat.le_refl i)) root fields
      rw [calls, List.flatMap_append]
      refine settle_then first ?_
      rw [ih ?_ ?_]
      · cases o.attached <;> simp [createdItems]
      · intro j later mem
        rcases List.mem_append.mp mem with here | before
        · split at here
          · exact absurd here List.not_mem_nil
          · obtain ⟨-, same⟩ := mem_createdItem.mp here
            injection same
            omega
        · exact free j (by omega) before
      · exact fun attached => List.mem_append_right _ (root attached)

/-! ### A save and a load -/

/-- What is held is items of earlier saves. -/
def OnlyItems (save : Nat) (held : List StoreResource) : Prop :=
  ∀ r ∈ held, ∃ before i, before < save ∧ r = .item before i

theorem OnlyItems.not_mem {save : Nat} {held : List StoreResource} (only : OnlyItems save held)
    {r : StoreResource} (other : ∀ before i, before < save → r ≠ .item before i) : r ∉ held := by
  intro mem
  obtain ⟨before, i, earlier, rfl⟩ := only r mem
  exact other before i earlier rfl

/-- What a save leaves behind. -/
def leftBehind (save : Nat) (o : Outcomes) (records : List Fields) : List StoreResource :=
  if o.attached then [] else createdItems save o 0 records

theorem mem_leftBehind {save : Nat} {o : Outcomes} {records : List Fields} {r : StoreResource} :
    r ∈ leftBehind save o records ↔
      o.attached = false ∧ ∃ i < records.length, o.item i = true ∧ r = .item save i := by
  unfold leftBehind
  cases o.attached with
  | true => simp
  | false => simp [mem_createdItems]

theorem not_mem_left {save : Nat} {o : Outcomes} {records : List Fields} {held : List StoreResource}
    (only : OnlyItems save held) {r : StoreResource} (other : ∀ s i, r ≠ .item s i) :
    r ∉ leftBehind save o records ++ held := by
  intro mem
  rcases List.mem_append.mp mem with here | before
  · obtain ⟨-, i, -, -, same⟩ := mem_leftBehind.mp here
    exact other save i same
  · exact only.not_mem (fun s i _ => other s i) before

/-- The items of a save, and what comes of them. -/
theorem persistItems_triple {save : Nat} {o : Outcomes} {held : List StoreResource}
    (exit : EspErr → List StoreResource → Prop) (free : ∀ j, .item save j ∉ held)
    (root : o.attached = true → .root ∈ held) (records : List Fields) :
    Triple StoreCall.ledger held (persistItems save o 0 records)
      (fun _ last => last = leftBehind save o records ++ held) exit := by
  refine ⟨_, persistItems_settles (fun j _ => free j) root records, ?_⟩
  rw [persistItems_ok]
  rfl

/-- The tree is deleted, whatever has been created since. -/
theorem delete_settles {above held : List StoreResource} (apart : StoreResource.root ∉ above) :
    settle (above ++ .root :: held) (StoreCall.deleteRoot true).ledger = some (above ++ held) := by
  show (if _ then some ((above ++ StoreResource.root :: held).erase .root) else none).bind _ = _
  rw [if_pos (List.mem_append_right _ List.mem_cons_self), List.erase_append_right _ apart,
    List.erase_cons_head]
  rfl

/-- The end of a save, with the text printed. -/
theorem writeText_triple {held : List StoreResource} (noFile : .file ∉ held) (fopen : Bool)
    (saved : File) :
    Triple StoreCall.ledger (.text :: held)
      (if fopen = false then do
        call (.fopen false)
        call .freeText
        leave .fail
      else do
        call (.fopen true)
        call .fputs
        call .fclose
        call .freeText
        pure saved : StoreCode EspErr File)
      (fun _ last => last = held) (fun _ last => last = held) := by
  have freed : settle (.text :: held) StoreCall.freeText.ledger = some held :=
    settle_give held .text []
  cases fopen with
  | false =>
      rw [if_pos rfl]
      refine triple_call (StoreResource.text :: held) rfl ?_
      exact triple_call held freed (triple_leave rfl)
  | true =>
      rw [if_neg Bool.noConfusion]
      have closed : .file ∉ StoreResource.text :: held := by simpa using noFile
      refine triple_call (StoreResource.file :: .text :: held) (settle_take closed []) ?_
      have writes : settle (.file :: .text :: held) StoreCall.fputs.ledger =
          some (.file :: .text :: held) := by
        refine settle_uses fun e mem => ?_
        simp only [StoreCall.ledger, List.mem_cons, List.not_mem_nil, or_false] at mem
        rcases mem with rfl | rfl
        · exact ⟨.text, by simp, rfl⟩
        · exact ⟨.file, by simp, rfl⟩
      refine triple_call (StoreResource.file :: .text :: held) writes ?_
      refine triple_call (StoreResource.text :: held) (settle_give (.text :: held) .file []) ?_
      exact triple_call held freed (triple_pure rfl)

/-- **A save gives back all it takes**, but for items that have no array to go to. -/
theorem persistCode_settles {codec : JsonCodec} {save : Nat} {held : List StoreResource}
    (only : OnlyItems save held) (o : Outcomes) (name : List UInt8) (records : List Fields) :
    settle held ((persistCode codec save o name records).calls.flatMap StoreCall.ledger) =
      some (leftBehind save o records ++ held) := by
  have freeRoot : .root ∉ held := only.not_mem fun _ _ _ => StoreResource.noConfusion
  have noText : .text ∉ leftBehind save o records ++ held :=
    not_mem_left only fun _ _ => StoreResource.noConfusion
  have noFile : .file ∉ leftBehind save o records ++ held :=
    not_mem_left only fun _ _ => StoreResource.noConfusion
  have freeItem (j : Nat) : .item save j ∉ held := by
    refine only.not_mem fun before i earlier same => ?_
    injection same
    omega
  let left : EspErr → List StoreResource → Prop := fun _ last =>
    last = leftBehind save o records ++ held
  refine settle_of_triple ?_
  unfold persistCode
  cases root : o.root with
  | false =>
      have detached : o.attached = false := by rw [Outcomes.attached, root]; rfl
      have loop := persistItems_triple left
        freeItem (fun attached => absurd (detached.symm.trans attached) Bool.noConfusion) records
      refine triple_call held rfl (triple_call held rfl (triple_bind loop ?_))
      · rintro _ _ rfl
        refine triple_call (leftBehind save o records ++ held) rfl ?_
        refine triple_call (leftBehind save o records ++ held) rfl ?_
        rw [if_pos (Or.inl rfl)]
        exact triple_leave rfl
  | true =>
      have freeItem' (j : Nat) : .item save j ∉ StoreResource.root :: held := fun mem =>
        freeItem j (List.mem_of_ne_of_mem StoreResource.noConfusion mem)
      have loop := persistItems_triple left
        freeItem' (fun (_ : o.attached = true) => List.mem_cons_self) records
      refine triple_call (StoreResource.root :: held) (settle_take freeRoot []) ?_
      have uses : settle (.root :: held) [.use .root] = some (.root :: held) :=
        settle_uses fun e mem => ⟨.root, List.mem_cons_self, List.mem_singleton.mp mem⟩
      refine triple_call (StoreResource.root :: held) uses ?_
      refine triple_bind loop ?_
      · rintro _ _ rfl
        have apart : .root ∉ leftBehind save o records := by
          rw [← List.append_nil (leftBehind save o records)]
          exact not_mem_left (fun _ mem => absurd mem List.not_mem_nil)
            fun _ _ => StoreResource.noConfusion
        have uses : settle (leftBehind save o records ++ .root :: held) [.use .root] =
            some (leftBehind save o records ++ .root :: held) :=
          settle_uses fun e mem => ⟨.root, List.mem_append_right _ List.mem_cons_self,
            List.mem_singleton.mp mem⟩
        cases print : o.print with
        | false =>
            refine triple_call (leftBehind save o records ++ .root :: held) uses ?_
            refine triple_call (leftBehind save o records ++ held) (delete_settles apart) ?_
            rw [if_pos (Or.inr rfl)]
            exact triple_leave rfl
        | true =>
            have free : .text ∉ leftBehind save o records ++ .root :: held := by
              intro mem
              refine noText (List.mem_append.mpr ((List.mem_append.mp mem).imp id fun rest => ?_))
              exact (List.mem_cons.mp rest).resolve_left StoreResource.noConfusion
            refine triple_call (StoreResource.text :: (leftBehind save o records ++ .root :: held))
              (settle_then uses (settle_take free [])) ?_
            have apart' : .root ∉ StoreResource.text :: leftBehind save o records := by
              simpa using apart
            refine triple_call (StoreResource.text :: (leftBehind save o records ++ held))
              (delete_settles apart') ?_
            rw [if_neg (by simp)]
            exact writeText_triple noFile o.fopen _

/-- **A load gives back all it takes.** -/
theorem loadCode_settles {codec : JsonCodec} {save : Nat} {held : List StoreResource}
    (only : OnlyItems save held) (malloc : Bool) (name : List UInt8) (file : File) :
    settle held ((loadCode codec malloc name file).calls.flatMap StoreCall.ledger) =
      some held := by
  have freeRoot : .root ∉ held := only.not_mem fun _ _ _ => StoreResource.noConfusion
  have freeFile : .file ∉ held := only.not_mem fun _ _ _ => StoreResource.noConfusion
  have freeBuf : .buf ∉ held := only.not_mem fun _ _ _ => StoreResource.noConfusion
  refine settle_of_triple ?_
  unfold loadCode
  cases file with
  | none => exact triple_call held rfl (triple_leave rfl)
  | some bytes =>
      have closed : settle (.file :: held) StoreCall.fclose.ledger = some held :=
        settle_give held .file []
      refine triple_call (StoreResource.file :: held) (settle_take freeFile []) ?_
      have sizes : settle (.file :: held) StoreCall.size.ledger = some (.file :: held) :=
        settle_uses fun e mem => ⟨.file, List.mem_cons_self, List.mem_singleton.mp mem⟩
      refine triple_call (StoreResource.file :: held) sizes ?_
      by_cases empty : bytes = []
      · rw [if_pos empty]
        exact triple_call held closed (triple_leave rfl)
      · rw [if_neg empty]
        cases malloc with
        | false =>
            rw [if_pos rfl]
            refine triple_call (StoreResource.file :: held) rfl ?_
            exact triple_call held closed (triple_leave rfl)
        | true =>
            rw [if_neg Bool.noConfusion]
            have free : .buf ∉ StoreResource.file :: held := by simpa using freeBuf
            refine triple_call (StoreResource.buf :: .file :: held) (settle_take free []) ?_
            have reads : settle (.buf :: .file :: held) StoreCall.fread.ledger =
                some (.buf :: .file :: held) := by
              refine settle_uses fun e mem => ?_
              simp only [StoreCall.ledger, List.mem_cons, List.not_mem_nil, or_false] at mem
              rcases mem with rfl | rfl
              · exact ⟨.file, by simp, rfl⟩
              · exact ⟨.buf, by simp, rfl⟩
            refine triple_call (StoreResource.buf :: .file :: held) reads ?_
            refine triple_call (StoreResource.buf :: held) (by simp [StoreCall.ledger, settle,
              Event.settle]) ?_
            have parses : settle (.buf :: held) [.use .buf] = some (.buf :: held) :=
              settle_uses fun e mem => ⟨.buf, List.mem_cons_self, List.mem_singleton.mp mem⟩
            cases codec.parse bytes with
            | none =>
                refine triple_call (StoreResource.buf :: held) parses ?_
                exact triple_call held (settle_give held .buf []) (triple_leave rfl)
            | some root =>
                have apart : .root ∉ StoreResource.buf :: held := by simpa using freeRoot
                refine triple_call (StoreResource.root :: .buf :: held)
                  (settle_then parses (settle_take apart [])) ?_
                refine triple_call (StoreResource.root :: held) (by simp [StoreCall.ledger, settle,
                  Event.settle]) ?_
                have walks : settle (.root :: held) StoreCall.getItems.ledger =
                    some (.root :: held) :=
                  settle_uses fun e mem => ⟨.root, List.mem_cons_self, List.mem_singleton.mp mem⟩
                refine triple_call (StoreResource.root :: held) walks ?_
                exact triple_call held (settle_give held .root []) (triple_pure rfl)

/-! ### Runs -/

inductive StoreOp where
  | load (malloc : Bool) (name : List UInt8) (file : File)
  | save (o : Outcomes) (name : List UInt8) (records : List Fields)

/-- The calls of the `n`-th operation. -/
def StoreOp.calls (codec : JsonCodec) (n : Nat) : StoreOp → List StoreCall
  | .load malloc name file => (loadCode codec malloc name file).calls
  | .save o name records => (persistCode codec n o name records).calls

def StoreOp.left (n : Nat) : StoreOp → List StoreResource
  | .load _ _ _ => []
  | .save o _ records => leftBehind n o records

theorem StoreOp.settles {codec : JsonCodec} {n : Nat} {held : List StoreResource}
    (only : OnlyItems n held) (op : StoreOp) :
    settle held ((op.calls codec n).flatMap StoreCall.ledger) = some (op.left n ++ held) := by
  cases op with
  | load malloc name file => exact loadCode_settles only malloc name file
  | save o name records => exact persistCode_settles only o name records

end Tab5
