/-
**A JSON codec for flat documents.**

`flatJson` prints a flat document as one line of JSON and parses what it has printed: strings escape
quotes and backslashes only, numbers are naturals. The decoder is lenient (`decodeSeq` takes a comma
before any element or none); `flatJson.parse` accepts a text only if printing what was decoded gives
it back.

* `decodeSeq_print`: a printed sequence is decoded, whatever follows it;
* `decodeDocument_print`: so is a printed document, which is then no first part of another one;
* `flatJson_faithful`: the codec is faithful.
-/

import Tab5RemoteTerminal.Library.Json

namespace Json

/-! ### Printing -/

def comma : UInt8 := 0x2C
def quote : UInt8 := 0x22
def backslash : UInt8 := 0x5C
def colon : UInt8 := 0x3A

def escape : List UInt8 → List UInt8
  | [] => []
  | c :: s => if c = quote ∨ c = backslash then backslash :: c :: escape s else c :: escape s

def printString (s : List UInt8) : List UInt8 := quote :: (escape s ++ [quote])

/-- The decimal digits of a natural number. -/
def printNat (n : Nat) : List UInt8 :=
  if n < 10 then [UInt8.ofNat (0x30 + n)] else printNat (n / 10) ++ [UInt8.ofNat (0x30 + n % 10)]

/-- Elements with commas between them, and before the first one if `sep`. -/
def printSeq {α : Type} (print : α → List UInt8) : Bool → List α → List UInt8
  | _, [] => []
  | sep, x :: xs => (if sep then [comma] else []) ++ print x ++ printSeq print true xs

def printScalar : Json → List UInt8
  | .string s => printString s
  | .number n => printNat n.toNat
  | _ => []

def printMember (member : List UInt8 × Json) : List UInt8 :=
  printString member.1 ++ [colon] ++ printScalar member.2

def printRecord : Json → List UInt8
  | .object members => 0x7B :: (printSeq printMember false members ++ [0x7D])
  | _ => []

def printDocument : Json → List UInt8
  | .object [(name, .array items)] =>
      0x7B :: (printString name ++ [colon, 0x5B] ++ printSeq printRecord false items ++ [0x5D, 0x7D])
  | .object [] => [0x7B, 0x7D]
  | _ => []

/-! ### Decoding -/

/-- After the opening quote, or after a backslash if `escaped`: the string, and what follows the
closing quote. -/
def decodeString : (escaped : Bool) → List UInt8 → Option (List UInt8 × List UInt8)
  | _, [] => none
  | true, c :: text => (decodeString false text).map fun (s, rest) => (c :: s, rest)
  | false, c :: text =>
      if c = quote then some ([], text)
      else if c = backslash then decodeString true text
      else (decodeString false text).map fun (s, rest) => (c :: s, rest)

def IsDigit (c : UInt8) : Prop := 0x30 ≤ c.toNat ∧ c.toNat < 0x3A

instance (c : UInt8) : Decidable (IsDigit c) := inferInstanceAs (Decidable (_ ∧ _))

def decodeDigits (value : Nat) : List UInt8 → Nat × List UInt8
  | [] => (value, [])
  | c :: text =>
      if IsDigit c then decodeDigits (value * 10 + (c.toNat - 0x30)) text else (value, c :: text)

/-- Elements up to the closing byte. -/
def decodeSeq {α : Type} (decode : List UInt8 → Option (α × List UInt8)) (close : UInt8) :
    (rounds : Nat) → List UInt8 → Option (List α × List UInt8)
  | 0, _ => none
  | rounds + 1, text =>
      let text := if text.head? = some comma then text.tail else text
      if text.head? = some close then some ([], text.tail)
      else (decode text).bind fun (x, rest) =>
        (decodeSeq decode close rounds rest).map fun (xs, rest) => (x :: xs, rest)

def decodeScalar : List UInt8 → Option (Json × List UInt8)
  | [] => none
  | c :: text =>
      if c = quote then (decodeString false text).map fun (s, rest) => (.string s, rest)
      else
        let (value, rest) := decodeDigits 0 (c :: text)
        some (.number value, rest)

def decodeMember (text : List UInt8) : Option ((List UInt8 × Json) × List UInt8) :=
  (decodeString false text.tail).bind fun (name, rest) =>
    (decodeScalar rest.tail).map fun (value, rest) => ((name, value), rest)

def decodeRecord (text : List UInt8) : Option (Json × List UInt8) :=
  (decodeSeq decodeMember 0x7D text.length text.tail).map fun (members, rest) =>
    (.object members, rest)

def decodeDocument (text : List UInt8) : Option (Json × List UInt8) :=
  if text.tail.head? = some 0x7D then some (.object [], text.tail.tail)
  else
    (decodeString false text.tail.tail).bind fun (name, rest) =>
      (decodeSeq decodeRecord 0x5D text.length rest.tail.tail).map fun (items, rest) =>
        (.object [(name, .array items)], rest.tail)

/-! ### Decoding what was printed -/

theorem decodeString_print (s rest : List UInt8) :
    decodeString false (escape s ++ quote :: rest) = some (s, rest) := by
  induction s with
  | nil => rfl
  | cons c s ih =>
      rw [escape]
      split
      · have escaped : decodeString false (backslash :: c :: escape s ++ quote :: rest) =
            (decodeString false (escape s ++ quote :: rest)).map fun (s, rest) => (c :: s, rest) :=
          rfl
        rw [escaped, ih]
        rfl
      · rename_i plain
        rw [not_or] at plain
        rw [List.cons_append, decodeString, if_neg plain.1, if_neg plain.2, ih]
        rfl

theorem toNat_digit {d : Nat} (small : d < 10) : (UInt8.ofNat (0x30 + d)).toNat = 0x30 + d := by
  rw [UInt8.toNat_ofNat']
  omega

theorem isDigit_digit {d : Nat} (small : d < 10) : IsDigit (UInt8.ofNat (0x30 + d)) := by
  unfold IsDigit
  rw [toNat_digit small]
  omega

theorem decodeDigits_print (n : Nat) (rest : List UInt8) :
    decodeDigits 0 (printNat n ++ rest) = decodeDigits n rest := by
  induction n using Nat.strongRecOn generalizing rest with
  | ind n ih =>
      rw [printNat]
      split
      · rename_i small
        have value : 0 * 10 + (0x30 + n - 0x30) = n := by omega
        rw [List.singleton_append, decodeDigits, if_pos (isDigit_digit small), toNat_digit small,
          value]
      · rename_i large
        have last : n % 10 < 10 := Nat.mod_lt n (by omega)
        have value : n / 10 * 10 + (0x30 + n % 10 - 0x30) = n := by omega
        rw [List.append_assoc, ih (n / 10) (by omega), List.singleton_append, decodeDigits,
          if_pos (isDigit_digit last), toNat_digit last, value]

/-- **A printed sequence**, when its elements can be told from what follows them. -/
theorem decodeSeq_print {α : Type} {print : α → List UInt8}
    {decode : List UInt8 → Option (α × List UInt8)} {close : UInt8} (notComma : close ≠ comma)
    {xs : List α} (first : ∀ x ∈ xs, ∃ c text, print x = c :: text ∧ c ≠ comma ∧ c ≠ close)
    (back : ∀ x ∈ xs, ∀ c rest, c = comma ∨ c = close →
      decode (print x ++ c :: rest) = some (x, c :: rest))
    {rounds : Nat} (enough : xs.length < rounds) (sep : Bool) (rest : List UInt8) :
    decodeSeq decode close rounds (printSeq print sep xs ++ close :: rest) = some (xs, rest) := by
  induction xs generalizing rounds sep with
  | nil =>
      cases rounds with
      | zero => exact absurd enough (Nat.not_lt_zero _)
      | succ rounds => simp [printSeq, decodeSeq, notComma]
  | cons x xs ih =>
      cases rounds with
      | zero => exact absurd enough (Nat.not_lt_zero _)
      | succ rounds =>
          obtain ⟨c, text, head, plain, inside⟩ := first x List.mem_cons_self
          have tail := ih (fun x mem => first x (List.mem_cons_of_mem _ mem))
            (fun x mem => back x (List.mem_cons_of_mem _ mem)) (Nat.lt_of_succ_lt_succ enough) true
          obtain ⟨d, more, follows, isEnd⟩ : ∃ d more,
              printSeq print true xs ++ close :: rest = d :: more ∧ (d = comma ∨ d = close) := by
            cases xs with
            | nil => exact ⟨close, rest, rfl, Or.inr rfl⟩
            | cons y ys => exact ⟨comma, _, rfl, Or.inl rfl⟩
          have decoded := back x List.mem_cons_self d more isEnd
          have text' : (if (printSeq print sep (x :: xs) ++ close :: rest).head? = some comma then
              (printSeq print sep (x :: xs) ++ close :: rest).tail
              else printSeq print sep (x :: xs) ++ close :: rest) = print x ++ d :: more := by
            rw [printSeq, List.append_assoc, List.append_assoc, follows, head]
            cases sep with
            | false => simp [plain]
            | true => simp
          have notClosed : (print x ++ d :: more).head? ≠ some close := by
            rw [head]
            simp [inside]
          rw [decodeSeq]
          simp only [text', if_neg notClosed, decoded, Option.bind_some]
          rw [← follows, tail]
          rfl

theorem printSeq_length {α : Type} {print : α → List UInt8} {xs : List α}
    (some : ∀ x ∈ xs, print x ≠ []) (sep : Bool) : xs.length ≤ (printSeq print sep xs).length := by
  induction xs generalizing sep with
  | nil => exact Nat.zero_le _
  | cons x xs ih =>
      have rest := ih (fun x mem => some x (List.mem_cons_of_mem _ mem)) true
      have head := List.length_pos_iff.mpr (some x List.mem_cons_self)
      rw [printSeq, List.length_append, List.length_append, List.length_cons]
      omega

theorem printNat_head (n : Nat) : ∃ d text, printNat n = d :: text ∧ IsDigit d := by
  induction n using Nat.strongRecOn with
  | ind n ih =>
      rw [printNat]
      split
      · rename_i small
        exact ⟨_, [], rfl, isDigit_digit small⟩
      · rename_i large
        obtain ⟨d, text, head, isDigit⟩ := ih (n / 10) (by omega)
        exact ⟨d, text ++ [UInt8.ofNat (0x30 + n % 10)], by rw [head]; rfl, isDigit⟩

theorem decodeScalar_print {value : Json} (isScalar : value.IsScalar) {c : UInt8}
    (isEnd : c = comma ∨ c = 0x7D) (rest : List UInt8) :
    decodeScalar (printScalar value ++ c :: rest) = some (value, c :: rest) := by
  cases value with
  | string s =>
      have decoded := decodeString_print s (c :: rest)
      simp [printScalar, printString, decodeScalar, decoded]
  | number n =>
      obtain ⟨d, text, head, isDigit⟩ := printNat_head n.toNat
      have noQuote : d ≠ quote := by
        rintro rfl
        exact absurd isDigit (by decide)
      have noDigit : ¬ IsDigit c := by
        rcases isEnd with rfl | rfl
        · decide
        · decide
      have back : ((n.toNat : Nat) : Int) = n := Int.toNat_of_nonneg isScalar.1
      have digits : decodeDigits 0 (d :: (text ++ c :: rest)) = (n.toNat, c :: rest) := by
        rw [← List.cons_append, ← head, decodeDigits_print, decodeDigits, if_neg noDigit]
      rw [printScalar, head, List.cons_append, decodeScalar, if_neg noQuote, digits]
      simp only [back]
  | _ => exact absurd isScalar id

theorem decodeMember_print {member : List UInt8 × Json} (isScalar : member.2.IsScalar) {c : UInt8}
    (isEnd : c = comma ∨ c = 0x7D) (rest : List UInt8) :
    decodeMember (printMember member ++ c :: rest) = some (member, c :: rest) := by
  have name := decodeString_print member.1 (colon :: (printScalar member.2 ++ c :: rest))
  have value := decodeScalar_print isScalar isEnd rest
  simp [printMember, printString, decodeMember, name, value]

theorem decodeRecord_print {record : Json} (isRecord : record.IsRecord) (rest : List UInt8) :
    decodeRecord (printRecord record ++ rest) = some (record, rest) := by
  cases record with
  | object members =>
      have first : ∀ member ∈ members,
          ∃ c text, printMember member = c :: text ∧ c ≠ comma ∧ c ≠ 0x7D :=
        fun member _ => ⟨quote, _, rfl, by decide, by decide⟩
      have longer : members.length ≤ (printSeq printMember false members).length :=
        printSeq_length (fun member _ => List.cons_ne_nil quote _) false
      have enough : members.length <
          (0x7B :: (printSeq printMember false members ++ 0x7D :: rest)).length := by
        rw [List.length_cons, List.length_append]
        omega
      have decoded := decodeSeq_print (by decide) first
        (fun member mem c rest isEnd => decodeMember_print (isRecord member mem).2 isEnd rest)
        enough false rest
      have text : printRecord (.object members) ++ rest =
          0x7B :: (printSeq printMember false members ++ 0x7D :: rest) := by
        rw [printRecord, List.cons_append, List.append_assoc]
        rfl
      rw [text, decodeRecord, List.tail_cons, decoded]
      rfl
  | _ => exact absurd isRecord id

/-- **A printed document is decoded**, whatever follows it. -/
theorem decodeDocument_print {doc : Json} (isDoc : doc.IsDocument) (rest : List UInt8) :
    decodeDocument (printDocument doc ++ rest) = some (doc, rest) := by
  match doc, isDoc with
  | .object [], _ => rfl
  | .object [(name, .array items)], isDoc =>
      have head : ∀ item ∈ items, ∃ text, printRecord item = 0x7B :: text := by
        intro item mem
        have isRecord := isDoc.2 item mem
        cases item with
        | object members => exact ⟨_, rfl⟩
        | _ => exact absurd isRecord id
      have first : ∀ item ∈ items,
          ∃ c text, printRecord item = c :: text ∧ c ≠ comma ∧ c ≠ 0x5D := by
        intro item mem
        obtain ⟨text, here⟩ := head item mem
        exact ⟨0x7B, text, here, by decide, by decide⟩
      have longer : items.length ≤ (printSeq printRecord false items).length := by
        refine printSeq_length (fun item mem => ?_) false
        obtain ⟨text, here⟩ := head item mem
        rw [here]
        exact List.cons_ne_nil _ text
      let array := printSeq printRecord false items ++ 0x5D :: (0x7D :: rest)
      have text : printDocument (.object [(name, .array items)]) ++ rest =
          0x7B :: quote :: (escape name ++ quote :: (colon :: 0x5B :: array)) := by
        simp [printDocument, printString, array]
      have enough : items.length <
          (0x7B :: quote :: (escape name ++ quote :: (colon :: 0x5B :: array))).length := by
        simp only [List.length_cons, List.length_append, array]
        omega
      have decoded := decodeSeq_print (by decide) first
        (fun item mem c rest _ => decodeRecord_print (isDoc.2 item mem) (c :: rest))
        enough false (0x7D :: rest)
      have noObject : (quote :: (escape name ++ quote :: (colon :: 0x5B :: array))).head? ≠
          some 0x7D := by simp [quote]
      rw [text, decodeDocument, List.tail_cons, if_neg noObject, List.tail_cons,
        decodeString_print]
      simp only [Option.bind_some, List.tail_cons]
      rw [decoded]
      rfl

end Json

/-- Printing, and parsing of flat documents as they are printed. -/
def flatJson : JsonCodec where
  print := Json.printDocument
  parse text :=
    match Json.decodeDocument text with
    | some (doc, []) => if doc.IsDocument ∧ Json.printDocument doc = text then some doc else none
    | _ => none

theorem flatJson_parse {text : List UInt8} {doc : Json} (parsed : flatJson.parse text = some doc) :
    doc.IsDocument ∧ flatJson.print doc = text := by
  simp only [flatJson] at parsed
  split at parsed
  · split at parsed
    · rename_i isDoc
      cases parsed
      exact isDoc
    · cases parsed
  · cases parsed

theorem flatJson_faithful : flatJson.Faithful where
  parse_print := by
    intro doc isDoc
    have decoded := Json.decodeDocument_print isDoc []
    rw [List.append_nil] at decoded
    simp [flatJson, decoded, isDoc]
  parse_part := by
    intro doc isDoc n short
    by_contra parsed
    obtain ⟨other, parsed⟩ := Option.ne_none_iff_exists'.mp parsed
    obtain ⟨isOther, same⟩ := flatJson_parse parsed
    -- the rest of the text would be decoded to nothing
    have whole := Json.decodeDocument_print isDoc []
    have part := Json.decodeDocument_print isOther ((flatJson.print doc).drop n)
    have joined : Json.printDocument other ++ (flatJson.print doc).drop n =
        Json.printDocument doc ++ [] := by
      rw [List.append_nil]
      exact (congrArg (· ++ _) same).trans (List.take_append_drop n _)
    rw [joined, whole] at part
    have rest := congrArg List.length (Prod.mk.inj (Option.some.inj part)).2
    rw [List.length_nil, List.length_drop] at rest
    omega
  parse_nil := rfl
