/-
**The parameters of a control sequence** (`parse_params` of `main/terminal.c`, lines 367 to 390).

`parseParamsInto` has the two loops of the C function, over the index that they share; the model of
the parser reads its result as a list (`parseParams`, `parseParamsInto_holds`). On digits and `;`
that list is the buffer split at `;` (`parseParams_splits`).
-/

import Tab5RemoteTerminal.Library.Slots
import Tab5RemoteTerminal.Library.While
import Tab5RemoteTerminal.Terminal.Control

namespace Tab5

open CLoop Slots

/-! ### The loops -/

/-- What the inner loop changes. -/
structure DigitRun where
  i : Nat
  val : Int
  anyDigit : Bool
deriving DecidableEq, Repr

/-- `i < len && buf[i] >= '0' && buf[i] <= '9'`. -/
def atDigit (buf : List UInt8) (d : DigitRun) : Option Bool :=
  if d.i < buf.length then buf[d.i]?.map isDigit else some false

def readDigit (buf : List UInt8) (d : DigitRun) : Option DigitRun :=
  buf[d.i]?.map fun c =>
    { i := d.i + 1
      val := wrap32 (wrap32 (d.val * 10) + (c.toNat - 0x30 : Int))
      anyDigit := true }

/-- What the outer loop changes. -/
structure ParamsState (maxOut : Nat) where
  i : Nat
  count : Int
  out : Block maxOut Int

variable {maxOut : Nat}

/-- `out[count++] = value`. -/
def ParamsState.put (s : ParamsState maxOut) (value : Int) : ParamsState maxOut :=
  { s with count := s.count + 1, out := s.out.store s.count value }

/-- The body of the outer loop. -/
def parseParam (buf : List UInt8) (s : ParamsState maxOut) : Option (ParamsState maxOut) :=
  buf[s.i]?.bind fun c =>
    if c = 0x3B then some { s.put (-1) with i := s.i + 1 } -- ';'
    else
      (whileLoop (atDigit buf) (readDigit buf) (buf.length + 1) ⟨s.i, 0, false⟩).map
        fun d : DigitRun =>
        { s.put (if d.anyDigit then d.val else -1) with
          i := if d.i < buf.length ∧ buf[d.i]? = some 0x3B then d.i + 1 else d.i }

/-- `parse_params(buf, len, out, max_out)`, of the `len` bytes `buf`: the count and the array.
`none` when a loop does not end or reads a byte behind them. -/
def parseParamsInto (buf : List UInt8) (out : Block maxOut Int) : Option (Int × Block maxOut Int) :=
  (whileLoop (fun s : ParamsState maxOut => some (decide (s.i < buf.length ∧ s.count < maxOut)))
    (parseParam buf) (maxOut + 1) ⟨0, 0, out⟩).map fun s => (s.count, s.out)

/-! ### The inner loop -/

/-- The digits `done` have been read from index `start`. -/
structure DigitsRead (buf : List UInt8) (start : Nat) (done : List UInt8) (d : DigitRun) : Prop where
  index : d.i = start + done.length
  run : done ++ (buf.drop d.i).takeWhile isDigit = (buf.drop start).takeWhile isDigit
  val : d.val = digitsValue done
  anyDigit : d.anyDigit = true ↔ done ≠ []

theorem DigitsRead.next {buf done : List UInt8} {start : Nat} {d : DigitRun} {c : UInt8}
    {rest : List UInt8} (read : DigitsRead buf start done d) (here : buf.drop d.i = c :: rest)
    (digit : isDigit c = true) :
    ∃ next, readDigit buf d = some next ∧ next.i = d.i + 1 ∧
      DigitsRead buf start (done ++ [c]) next := by
  have byte : buf[d.i]? = some c := by
    rw [← List.head?_drop, here, List.head?_cons]
  have behind : buf.drop (d.i + 1) = rest := by
    rw [← List.tail_drop, here, List.tail_cons]
  refine ⟨_, congrArg (Option.map _) byte, rfl, ?_, ?_, ?_, ?_⟩
  · rw [List.length_append, List.length_singleton, read.index]
    rfl
  · rw [← read.run, here, behind, List.takeWhile_cons_of_pos digit, List.append_assoc,
      List.singleton_append]
  · dsimp only
    rw [read.val, digitsValue, digitsValue, List.foldl_append]
    rfl
  · simp

/-- **The digits from an index**: all of them are read, and nothing behind the buffer. -/
theorem digitLoop_spec (buf : List UInt8) (start : Nat) :
    ∃ d, whileLoop (atDigit buf) (readDigit buf) (buf.length + 1) ⟨start, 0, false⟩ = some d ∧
      DigitsRead buf start ((buf.drop start).takeWhile isDigit) d := by
  have ended := @whileLoop_rule _ (atDigit buf) (readDigit buf) (buf.length + 1)
    ⟨start, 0, false⟩ (fun d => ∃ done, DigitsRead buf start done d)
    (fun d => buf.length - d.i) ?_ ⟨[], rfl, rfl, rfl, by simp⟩ (by dsimp only; omega)
  · obtain ⟨d, ends, ⟨done, read⟩, stops⟩ := ended
    have nothing : (buf.drop d.i).takeWhile isDigit = [] := by
      unfold atDigit at stops
      cases here : buf.drop d.i with
      | nil => rfl
      | cons c rest =>
          have byte : buf[d.i]? = some c := by
            rw [← List.head?_drop, here, List.head?_cons]
          obtain ⟨inside, _⟩ := List.getElem?_eq_some_iff.mp byte
          rw [if_pos inside, byte] at stops
          exact List.takeWhile_cons_of_neg (by simpa using stops)
    have whole := read.run
    rw [nothing, List.append_nil] at whole
    exact ⟨d, ends, whole ▸ read⟩
  · rintro d ⟨done, read⟩
    unfold atDigit
    by_cases inside : d.i < buf.length
    · have here := List.drop_eq_getElem_cons inside
      rw [if_pos inside, List.getElem?_eq_getElem inside, Option.map_some]
      by_cases digit : isDigit buf[d.i] = true
      · obtain ⟨next, reads, index, after⟩ := read.next here digit
        exact .inr ⟨congrArg some digit, next, reads, ⟨_, after⟩, by omega⟩
      · exact .inl (congrArg some (by simpa using digit))
    · exact .inl (if_neg inside)

/-! ### The outer loop -/

/-- The values so far, and those still to come, are the list. -/
def ParamsRead (buf : List UInt8) (values : List Int) (s : ParamsState maxOut) : Prop :=
  Holds s.out s.count values ∧
    values ++ parseParams (maxOut - values.length) (buf.drop s.i) = parseParams maxOut buf

/-- One value more. -/
theorem ParamsRead.put {buf : List UInt8} {values : List Int} {s : ParamsState maxOut}
    (read : ParamsRead buf values s) (room : s.count < maxOut) {value : Int} {next : Nat}
    (parsed : ∀ room, parseParams (room + 1) (buf.drop s.i) =
      value :: parseParams room (buf.drop next)) :
    ParamsRead buf (values ++ [value]) { s.put value with i := next } := by
  obtain ⟨holds, whole⟩ := read
  have count := holds.count
  refine ⟨holds.append room value, ?_⟩
  have more : maxOut - values.length = maxOut - (values ++ [value]).length + 1 := by
    rw [List.length_append, List.length_singleton]
    omega
  rw [more, parsed] at whole
  rw [← whole, List.append_assoc]
  rfl

/-- **One round of the outer loop** takes the next value of the list. -/
theorem ParamsRead.round {buf : List UInt8} {values : List Int} {s : ParamsState maxOut}
    (read : ParamsRead buf values s) (inside : s.i < buf.length) (room : s.count < maxOut) :
    ∃ next value, parseParam buf s = some next ∧ ParamsRead buf (values ++ [value]) next ∧
      next.count = s.count + 1 := by
  have here := List.drop_eq_getElem_cons inside
  generalize byte : buf[s.i] = c at here
  have at_i : buf[s.i]? = some c := List.getElem?_eq_some_iff.mpr ⟨inside, byte⟩
  by_cases separator : c = 0x3B
  · refine ⟨{ s.put (-1) with i := s.i + 1 }, -1, ?_, read.put room fun room => ?_, rfl⟩
    · rw [parseParam, at_i, Option.bind_some, if_pos separator]
    · rw [here, parseParams, if_pos separator]
  · obtain ⟨d, loops, digits⟩ := digitLoop_spec buf s.i
    have index := digits.index
    have remaining : (buf.drop s.i).dropWhile isDigit = buf.drop d.i := by
      calc (buf.drop s.i).dropWhile isDigit
          = ((buf.drop s.i).takeWhile isDigit ++ (buf.drop s.i).dropWhile isDigit).drop
              ((buf.drop s.i).takeWhile isDigit).length := List.drop_left.symm
        _ = (buf.drop s.i).drop ((buf.drop s.i).takeWhile isDigit).length := by
              rw [List.takeWhile_append_dropWhile]
        _ = buf.drop d.i := by rw [List.drop_drop, ← index]
    have head : (buf.drop d.i).head? = buf[d.i]? := List.head?_drop
    refine ⟨{ s.put (if d.anyDigit then d.val else -1) with
      i := if d.i < buf.length ∧ buf[d.i]? = some 0x3B then d.i + 1 else d.i }, _, ?_,
      read.put room fun room => ?_, rfl⟩
    · rw [parseParam, at_i, Option.bind_some, if_neg separator, loops, Option.map_some]
    · rw [here, parseParams, if_neg separator, ← here]
      dsimp only
      rw [remaining, head]
      have value : (if (buf.drop s.i).takeWhile isDigit = [] then -1
          else digitsValue ((buf.drop s.i).takeWhile isDigit)) =
          if d.anyDigit then d.val else -1 := by
        by_cases none : (buf.drop s.i).takeWhile isDigit = []
        · rw [if_pos none, if_neg fun any => digits.anyDigit.mp any none]
        · rw [if_neg none, if_pos (digits.anyDigit.mpr none), digits.val]
      have behind : (if buf[d.i]? = some 0x3B then (buf.drop d.i).tail else buf.drop d.i) =
          buf.drop (if d.i < buf.length ∧ buf[d.i]? = some 0x3B then d.i + 1 else d.i) := by
        by_cases separated : buf[d.i]? = some 0x3B
        · obtain ⟨more, _⟩ := List.getElem?_eq_some_iff.mp separated
          rw [if_pos separated, if_pos ⟨more, separated⟩, List.tail_drop]
        · rw [if_neg separated, if_neg fun both => separated both.2]
      rw [value, behind]

/-- **`parse_params` ends, reads no byte behind the buffer and writes only into the array**, whose
first elements are then the list. -/
theorem parseParamsInto_holds (buf : List UInt8) (out : Block maxOut Int)
    (clean : out.fault = false) :
    ∃ count out', parseParamsInto buf out = some (count, out') ∧
      Holds out' count (parseParams maxOut buf) := by
  have ended := @whileLoop_rule (ParamsState maxOut)
    (fun s => some (decide (s.i < buf.length ∧ s.count < maxOut))) (parseParam buf) (maxOut + 1)
    ⟨0, 0, out⟩ (fun s => ∃ values, ParamsRead buf values s) (fun s => maxOut - s.count.toNat) ?_
    ⟨[], .empty clean, rfl⟩ (by simp)
  · obtain ⟨s, ends, ⟨values, holds, whole⟩, stops⟩ := ended
    have count := holds.count
    have room := holds.room
    have nothing : parseParams (maxOut - values.length) (buf.drop s.i) = [] := by
      simp only [Option.some.injEq, decide_eq_false_iff_not, not_and, not_lt] at stops
      by_cases inside : s.i < buf.length
      · have full := stops inside
        rw [show maxOut - values.length = 0 by omega, parseParams]
      · rw [List.drop_of_length_le (by omega)]
        cases maxOut - values.length <;> rfl
    rw [nothing, List.append_nil] at whole
    exact ⟨s.count, s.out, congrArg (Option.map _) ends, whole ▸ holds⟩
  · rintro s ⟨values, read⟩
    by_cases again : s.i < buf.length ∧ s.count < maxOut
    · obtain ⟨next, value, step, after, count⟩ := read.round again.1 again.2
      have counted := read.1.count
      exact .inr ⟨congrArg some (decide_eq_true again), next, step, ⟨_, after⟩, by omega⟩
    · exact .inl (congrArg some (decide_eq_false again))

/-! ### Fields -/

/-- The buffer split at `;`, a last empty field dropped. -/
def paramFields (buf : List UInt8) : List (List UInt8) :=
  if (buf.splitOn 0x3B).getLast? = some [] then (buf.splitOn 0x3B).dropLast else buf.splitOn 0x3B

/-- What a field is read as. -/
def fieldParam (field : List UInt8) : Int := if field = [] then -1 else digitsValue field

theorem paramFields_nil : paramFields [] = [] := by
  rw [paramFields, List.splitOn_nil]
  rfl

theorem paramFields_separated {field : List UInt8} (noSeparator : 0x3B ∉ field)
    (rest : List UInt8) : paramFields (field ++ 0x3B :: rest) = field :: paramFields rest := by
  have split := List.splitOn_append_cons_self_of_not_mem noSeparator rest
  obtain ⟨first, others, shape⟩ := List.exists_cons_of_ne_nil (List.splitOn_ne_nil 0x3B rest)
  unfold paramFields
  rw [split, shape, List.getLast?_cons_cons, List.dropLast_cons_cons]
  split <;> rfl

theorem paramFields_last {field : List UInt8} (noSeparator : 0x3B ∉ field) (nonempty : field ≠ []) :
    paramFields field = [field] := by
  rw [paramFields, List.splitOn_eq_singleton noSeparator]
  simp [nonempty]

/-- Digits and `;`, field by field. -/
inductive ParamBytes : List UInt8 → Prop where
  | nil : ParamBytes []
  | last {field : List UInt8} (digits : ∀ c ∈ field, isDigit c = true) (nonempty : field ≠ []) :
      ParamBytes field
  | field {field rest : List UInt8} (digits : ∀ c ∈ field, isDigit c = true)
      (more : ParamBytes rest) : ParamBytes (field ++ 0x3B :: rest)

theorem paramBytes_of_all {buf : List UInt8} (all : ∀ c ∈ buf, isParam c = true) :
    ParamBytes buf := by
  generalize size : buf.length = n
  induction n using Nat.strongRecOn generalizing buf with
  | ind n ih =>
      have split := List.takeWhile_append_dropWhile (p := isDigit) (l := buf)
      have digits : ∀ c ∈ buf.takeWhile isDigit, isDigit c = true :=
        fun c member => List.mem_takeWhile_imp member
      cases after : buf.dropWhile isDigit with
      | nil =>
          rw [after, List.append_nil] at split
          rw [split] at digits
          by_cases none : buf = []
          · rw [none]
            exact .nil
          · exact .last digits none
      | cons separator rest =>
          rw [after] at split
          have notDigit : isDigit separator = false := by
            simpa [after] using List.head?_dropWhile_not isDigit buf
          have isSeparator : separator = 0x3B := by
            simpa [isParam, notDigit] using all separator (by rw [← split]; simp)
          have shorter := congrArg List.length split
          rw [List.length_append, List.length_cons] at shorter
          rw [← split, isSeparator]
          exact .field digits (ih rest.length (by omega)
            (fun c inside => all c (by rw [← split]; simp [inside])) rfl)

theorem separator_not_mem {field : List UInt8} (digits : ∀ c ∈ field, isDigit c = true) :
    0x3B ∉ field := fun member => absurd (digits 0x3B member) (by decide)

theorem paramFields_digits {buf : List UInt8} (bytes : ParamBytes buf) :
    ∀ field ∈ paramFields buf, ∀ c ∈ field, isDigit c = true := by
  induction bytes with
  | nil =>
      rw [paramFields_nil]
      exact List.forall_mem_nil _
  | last digits nonempty =>
      rw [paramFields_last (separator_not_mem digits) nonempty]
      exact List.forall_mem_singleton.mpr digits
  | field digits more ih =>
      rw [paramFields_separated (separator_not_mem digits)]
      exact List.forall_mem_cons.mpr ⟨digits, ih⟩

/-- **The list is the fields**, as far as there is room. -/
theorem parseParams_fields {buf : List UInt8} (bytes : ParamBytes buf) (room : Nat) :
    parseParams room buf = ((paramFields buf).take room).map fieldParam := by
  induction bytes generalizing room with
  | nil =>
      rw [paramFields_nil, List.take_nil, List.map_nil]
      cases room <;> rfl
  | last digits nonempty =>
      rw [paramFields_last (separator_not_mem digits) nonempty]
      cases room with
      | zero => rw [parseParams, List.take_zero, List.map_nil]
      | succ room =>
          rw [parseParams_lastDigits room nonempty digits]
          simp [fieldParam, nonempty]
  | @field field rest digits more ih =>
      rw [paramFields_separated (separator_not_mem digits)]
      cases room with
      | zero => rw [parseParams, List.take_zero, List.map_nil]
      | succ room =>
          rw [List.take_succ_cons, List.map_cons, ← ih room]
          by_cases none : field = []
          · rw [none, List.nil_append, parseParams, if_pos rfl]
            rfl
          · rw [parseParams_digits room none digits (by simp [isDigit_separator]), fieldParam,
              if_neg none]
            rfl

/-- **`parse_params` splits at `;`.** Of digits and `;` it returns, without an access outside an
array, the fields as far as there is room, in order: -1 for an empty one and else the decimal value,
if that is a C int. -/
theorem parseParams_splits (buf : List UInt8) (all : ∀ c ∈ buf, isParam c = true)
    (cells : Fin 16 → Int) :
    ∃ count out, parseParamsInto buf ⟨cells, false⟩ = some (count, out) ∧ out.fault = false ∧
      count = min 16 (paramFields buf).length ∧
      ∀ (k : Nat) (field : List UInt8), k < 16 → (paramFields buf)[k]? = some field →
        (field = [] → out.load k = -1) ∧
        (field ≠ [] → fieldValue field < 2147483648 → out.load k = fieldValue field) := by
  obtain ⟨count, out, ends, holds⟩ := parseParamsInto_holds buf ⟨cells, false⟩ rfl
  have bytes := paramBytes_of_all all
  have values := parseParams_fields bytes 16
  have counted := holds.count
  rw [values, List.length_map, List.length_take] at counted
  refine ⟨count, out, ends, holds.clean, by omega, fun k field inRoom at_k => ?_⟩
  have value : (parseParams 16 buf)[k]? = some (fieldParam field) := by
    rw [values, List.getElem?_map, List.getElem?_take_of_lt inRoom, at_k, Option.map_some]
  have short : k < (parseParams 16 buf).length := (List.getElem?_eq_some_iff.mp value).1
  have loaded : out.load k = fieldParam field :=
    Option.some.inj ((holds.cells k short).symm.trans value)
  rw [loaded, fieldParam]
  refine ⟨fun empty => if_pos empty, fun nonempty small => ?_⟩
  rw [if_neg nonempty]
  exact digitsValue_eq (paramFields_digits bytes field (List.mem_of_getElem? at_k)) small

/-- `;12;`: an empty field and a number. -/
theorem parseParams_splits_two :
    ∃ count out, parseParamsInto [0x3B, 0x31, 0x32, 0x3B] ⟨fun _ : Fin 16 => 0, false⟩ =
        some (count, out) ∧ out.load 0 = -1 ∧ out.load 1 = 12 := by
  obtain ⟨count, out, ends, _, _, values⟩ := parseParams_splits [0x3B, 0x31, 0x32, 0x3B]
    (List.all_eq_true.mp rfl) fun _ => 0
  have fields : paramFields [0x3B, 0x31, 0x32, 0x3B] = [[], [0x31, 0x32]] := by decide
  refine ⟨count, out, ends, (values 0 [] (by omega) (by rw [fields]; rfl)).1 rfl, ?_⟩
  exact (values 1 [0x31, 0x32] (by omega) (by rw [fields]; rfl)).2 (by decide) (by decide)

end Tab5
