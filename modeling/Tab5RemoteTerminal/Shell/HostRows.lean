/-
**The host list on the home screen** (`main/ui_shell.c`, lines 34 to 205).

`rebuildHostList` is what `rebuild_host_list` puts into `s_list_container`. A first pass over the
store collects the groups of the hosts that match the search, a second one goes through the store
again for each group, and once more for the hosts without one. Nothing is lost on the way: there are
at most 64 hosts, so the table of groups has room (`noteGroups_eq`), and a group name fits where it
is copied.

`rebuildHostList_listing`: every matching host is shown exactly once, in its group, and a tap on its
row opens it.
-/

import Tab5RemoteTerminal.Library.Buckets
import Tab5RemoteTerminal.Shell.EditForm

namespace Tab5

open Json HostStore Buckets

/-! ### The search -/

/-- `strcasestr(haystack, needle) != NULL`. -/
def strcasestr (haystack needle : List UInt8) : Bool :=
  needle.map lowerByte <:+: haystack.map lowerByte

/-- The needle is the text of a textarea, which is never NULL. -/
def matchesFilter (h : HostEntry) (needle : List UInt8) : Bool :=
  if needle = [] then true
  else strcasestr h.name.bytes needle || strcasestr h.group.bytes needle ||
    strcasestr h.address.bytes needle

/-! ### The widgets -/

def protocolStr : HostProtocol → List UInt8
  | .ssh => ascii ['s', 's', 'h']
  | .telnet => ascii ['t', 'e', 'l', 'n', 'e', 't']
  | .serial => ascii ['s', 'e', 'r', 'i', 'a', 'l']

/-- `"%s  %s://%s:%u"`. -/
def rowLabel (h : HostEntry) : List UInt8 :=
  h.name.bytes ++ ascii [' ', ' '] ++ protocolStr h.protocol ++ ascii [':', '/', '/'] ++
    h.address.bytes ++ ascii [':'] ++ (unsignedText h.port).bytes

/-- A button, with the user data of its two callbacks. -/
structure HostRow where
  click : Int
  longPress : Int
  label : List UInt8
deriving DecidableEq

inductive ListItem where
  | header (text : List UInt8)
  | row (r : HostRow)
  | note (text : List UInt8)
deriving DecidableEq

def ListItem.asRow : ListItem → Option HostRow
  | .row r => some r
  | _ => none

/-- What a tap on a row does. -/
inductive RowAction where
  | openTelnet (h : HostEntry)
  | openSsh (h : HostEntry)
  | edit (form : EditForm)

/-- Serial sessions are not there yet. -/
def hostRowClickCb (s : HostStore) (index : Int) : RowAction :=
  match s.hostStoreGet index with
  | some h =>
      if h.protocol = .telnet then .openTelnet h
      else if h.protocol = .ssh then .openSsh h
      else .edit (showEditScreen s index)
  | none => .edit (showEditScreen s index)

def hostRowLongPressCb (s : HostStore) (index : Int) : EditForm := showEditScreen s index

def ungroupedText : List UInt8 := ascii ['U', 'n', 'g', 'r', 'o', 'u', 'p', 'e', 'd']

def noHostsText : List UInt8 :=
  ascii ['N', 'o', ' ', 'h', 'o', 's', 't', 's', ' ', 'y', 'e', 't', ' ', '-', '-', ' ', 't', 'a',
    'p', ' ', '+', ' ', 't', 'o', ' ', 'a', 'd', 'd', ' ', 'o', 'n', 'e']

def noMatchText : List UInt8 :=
  ascii ['N', 'o', ' ', 'h', 'o', 's', 't', 's', ' ', 'm', 'a', 't', 'c', 'h', ' ', 'y', 'o', 'u',
    'r', ' ', 's', 'e', 'a', 'r', 'c', 'h']

/-! ### The two passes -/

/-- What `for (int i = 0; i < count; i++)` with `host_store_get(i)` goes through: every index below
the count has a host. -/
def numbered (s : HostStore) : List (Int × HostEntry) :=
  (List.range s.hostStoreCount.toNat).filterMap fun i : Nat =>
    (s.hostStoreGet i).map fun h => ((i : Int), h)

/-- `seen_groups` with its count, and `any_ungrouped`. -/
structure SeenGroups where
  groups : List (CStr 64)
  anyUngrouped : Bool

/-- The body of the first loop. -/
def noteGroup (filter : List UInt8) (seen : SeenGroups) (row : Int × HostEntry) : SeenGroups :=
  if matchesFilter row.2 filter = false then seen
  else if row.2.group.bytes = [] then { seen with anyUngrouped := true }
  else if seen.groups.any fun g => g.bytes = row.2.group.bytes then seen
  else if seen.groups.length < 64 then
    { seen with groups := seen.groups ++ [.copy 64 roomFor64 row.2.group.bytes] }
  else seen

/-- The children of the container, and `rendered_any`. -/
structure HostList where
  items : List ListItem
  renderedAny : Bool

def HostList.label (list : HostList) (item : ListItem) : HostList :=
  { list with items := list.items ++ [item] }

/-- The button of a host. -/
def hostRow (row : Int × HostEntry) : HostRow := ⟨row.1, row.1, rowLabel row.2⟩

/-- The body of the two loops that create buttons. -/
def addRow (wanted : HostEntry → Bool) (list : HostList) (row : Int × HostEntry) : HostList :=
  if wanted row.2 then { items := list.items ++ [.row (hostRow row)], renderedAny := true } else list

/-- `rebuild_host_list`, where `allocated` is whether its `malloc` succeeds. -/
def rebuildHostList (allocated : Bool) (filter : List UInt8) (s : HostStore) : List ListItem :=
  if allocated = false then []
  else
    let rows := numbered s
    let seen := rows.foldl (noteGroup filter) ⟨[], false⟩
    let grouped := seen.groups.foldl (fun list g =>
      rows.foldl (addRow fun h => matchesFilter h filter && decide (h.group.bytes = g.bytes))
        (list.label (.header g.bytes))) ⟨[], false⟩
    let list :=
      if seen.anyUngrouped then
        rows.foldl (addRow fun h => matchesFilter h filter && decide (h.group.bytes = []))
          (grouped.label (.header ungroupedText))
      else grouped
    if list.renderedAny then list.items
    else (list.label (.note (if s.hostStoreCount = 0 then noHostsText else noMatchText))).items

/-! ### What should be shown -/

/-- The hosts that match, with their indices, in store order. -/
def matchingRows (filter : List UInt8) (s : HostStore) : List (Int × HostEntry) :=
  (numbered s).filter fun row => matchesFilter row.2 filter

/-- The name of a host and where it is: `name  ssh://address:port`. -/
def hostText (h : HostEntry) : List UInt8 :=
  let scheme : List UInt8 :=
    match h.protocol with
    | .ssh => ascii ['s', 's', 'h']
    | .telnet => ascii ['t', 'e', 'l', 'n', 'e', 't']
    | .serial => ascii ['s', 'e', 'r', 'i', 'a', 'l']
  h.name.bytes ++ ascii [' ', ' '] ++ scheme ++ ascii [':', '/', '/'] ++ h.address.bytes ++
    ascii [':'] ++ printNat h.port.toNat

/-- A header, and the rows of some hosts. -/
def listSection (text : List UInt8) (rows : List (Int × HostEntry)) : List ListItem :=
  .header text :: rows.map fun row => .row ⟨row.1, row.1, hostText row.2⟩

def inGroup (rows : List (Int × HostEntry)) (g : CStr 64) : List (Int × HostEntry) :=
  rows.filter fun row => row.2.group = g

def ungrouped (rows : List (Int × HostEntry)) : List (Int × HostEntry) :=
  rows.filter fun row => row.2.group.bytes = []

/-- The named groups of some hosts, in the order of the first host of each. -/
structure GroupsInOrder (rows : List (Int × HostEntry)) (groups : List (CStr 64)) : Prop where
  named : ∀ g, g ∈ groups ↔ g.bytes ≠ [] ∧ ∃ row ∈ rows, row.2.group = g
  order : groups.Pairwise fun first second =>
    (rows.map fun row => row.2.group).idxOf first < (rows.map fun row => row.2.group).idxOf second

/-- The hosts that match, in their groups, and the others of them at the end. -/
def sections (rows : List (Int × HostEntry)) (groups : List (CStr 64)) : List ListItem :=
  (groups.flatMap fun g => listSection g.bytes (inGroup rows g)) ++
    if ungrouped rows = [] then []
    else listSection (ascii ['U', 'n', 'g', 'r', 'o', 'u', 'p', 'e', 'd']) (ungrouped rows)

/-- The text that stands alone: "No hosts yet -- tap + to add one" while the store is empty, else "No
hosts match your search". -/
def emptyNote (filter : List UInt8) (s : HostStore) : List ListItem :=
  if matchingRows filter s = [] then
    [.note (if s.hostStoreCount = 0 then
      ascii ['N', 'o', ' ', 'h', 'o', 's', 't', 's', ' ', 'y', 'e', 't', ' ', '-', '-', ' ', 't', 'a',
        'p', ' ', '+', ' ', 't', 'o', ' ', 'a', 'd', 'd', ' ', 'o', 'n', 'e']
      else ascii ['N', 'o', ' ', 'h', 'o', 's', 't', 's', ' ', 'm', 'a', 't', 'c', 'h', ' ', 'y', 'o',
        'u', 'r', ' ', 's', 'e', 'a', 'r', 'c', 'h'])]
  else []

/-- What the list should be: every matching host has one row, which shows it and leads to it; the
rows stand in their groups; and there is a note exactly if no host matches. -/
structure Listing (filter : List UInt8) (s : HostStore) (items : List ListItem) : Prop where
  once : ((items.filterMap ListItem.asRow).map HostRow.click).Nodup
  matching : ∀ i, i ∈ (items.filterMap ListItem.asRow).map HostRow.click ↔
    ∃ h, s.hostStoreGet i = some h ∧ matchesFilter h filter = true
  labelled : ∀ r ∈ items.filterMap ListItem.asRow, ∃ h, s.hostStoreGet r.click = some h ∧
    r.label = hostText h ∧ r.longPress = r.click
  /-- A tap opens the host, or its form if it is a serial one, as a long press does. -/
  opens : ∀ r ∈ items.filterMap ListItem.asRow, ∃ h, s.hostStoreGet r.click = some h ∧
    (hostRowLongPressCb s r.longPress).name = h.name.bytes ∧
    hostRowClickCb s r.click =
      match h.protocol with
      | .telnet => .openTelnet h
      | .ssh => .openSsh h
      | .serial => .edit (hostRowLongPressCb s r.longPress)
  grouped : ∃ groups, GroupsInOrder (matchingRows filter s) groups ∧
    items = sections (matchingRows filter s) groups ++ emptyNote filter s
  note : (∃ text, .note text ∈ items) ↔
    ∀ i h, s.hostStoreGet i = some h → matchesFilter h filter = false

/-! ### The rows of the store -/

section Store

variable {s : HostStore}

theorem mem_numbered {row : Int × HostEntry} :
    row ∈ numbered s ↔ s.hostStoreGet row.1 = some row.2 := by
  have count := s.hostStoreCount_eq
  obtain ⟨i, h⟩ := row
  simp only [numbered, List.mem_filterMap, List.mem_range, Option.map_eq_some_iff, Prod.mk.injEq]
  constructor
  · rintro ⟨k, _, _, here, rfl, rfl⟩
    exact here
  · intro here
    have read := here
    rw [hostStoreGet_eq, Option.ite_none_left_eq_some] at read
    obtain ⟨low, read⟩ := read
    obtain ⟨inside, _⟩ := List.getElem?_eq_some_iff.mp read
    have cast : ((i.toNat : Nat) : Int) = i := by omega
    refine ⟨i.toNat, by omega, h, ?_, cast, rfl⟩
    rw [cast, here]

theorem numbered_nodup (s : HostStore) : ((numbered s).map Prod.fst).Nodup := by
  rw [numbered, List.map_filterMap]
  refine List.Nodup.filterMap ?_ List.nodup_range
  intro i j index first second
  simp only [Option.map_map, Option.mem_def, Option.map_eq_some_iff, Function.comp_apply] at first second
  obtain ⟨_, _, rfl⟩ := first
  obtain ⟨_, _, same⟩ := second
  exact (Int.ofNat.inj same).symm

theorem numbered_length (s : HostStore) : (numbered s).length ≤ 64 := by
  have room := s.holds.room
  have count := s.hostStoreCount_eq
  have short := List.length_filterMap_le
    (fun i : Nat => (s.hostStoreGet i).map fun h => ((i : Int), h))
    (List.range s.hostStoreCount.toNat)
  rw [List.length_range] at short
  unfold numbered
  omega

end Store

/-! ### The first pass -/

/-- The groups of some rows, without the empty one. -/
def groupsOf (rows : List (Int × HostEntry)) : List (CStr 64) :=
  (firstSeen (rows.map fun row => row.2.group)).filter fun g => g.bytes ≠ []

theorem mem_groupsOf {rows : List (Int × HostEntry)} {g : CStr 64} :
    g ∈ groupsOf rows ↔ g.bytes ≠ [] ∧ ∃ row ∈ rows, row.2.group = g := by
  simp [groupsOf, and_comm]

theorem groupsOf_length (rows : List (Int × HostEntry)) : (groupsOf rows).length ≤ rows.length := by
  refine (List.length_filter_le _ _).trans ((firstSeen_length _).trans ?_)
  rw [List.length_map]

/-- One more row: its group is there already, or comes last. -/
theorem groupsOf_concat (rows : List (Int × HostEntry)) (row : Int × HostEntry) :
    groupsOf (rows ++ [row]) =
      if row.2.group.bytes = [] ∨ row.2.group ∈ groupsOf rows then groupsOf rows
      else groupsOf rows ++ [row.2.group] := by
  unfold groupsOf
  rw [List.map_append, List.map_singleton, firstSeen_concat, note]
  by_cases noGroup : row.2.group.bytes = []
  · rw [if_pos (Or.inl noGroup)]
    split
    · rfl
    · rw [List.filter_append, List.filter_cons, if_neg (by simp [noGroup]), List.filter_nil,
        List.append_nil]
  · by_cases known : row.2.group ∈ firstSeen (rows.map fun row => row.2.group)
    · rw [if_pos known, if_pos (Or.inr (List.mem_filter.mpr ⟨known, by simp [noGroup]⟩))]
    · have new : ¬ (row.2.group.bytes = [] ∨ row.2.group ∈
          (firstSeen (rows.map fun row => row.2.group)).filter fun g => g.bytes ≠ []) :=
        not_or.mpr ⟨noGroup, fun mem => known (List.mem_filter.mp mem).1⟩
      rw [if_neg known, if_neg new, List.filter_append, List.filter_cons,
        if_pos (by simpa using noGroup), List.filter_nil]

theorem ungrouped_concat (rows : List (Int × HostEntry)) (row : Int × HostEntry) :
    ungrouped (rows ++ [row]) =
      ungrouped rows ++ if row.2.group.bytes = [] then [row] else [] := by
  rw [ungrouped, List.filter_append, List.filter_cons, List.filter_nil]
  simp [ungrouped]

/-- **The table of groups never fills up** with at most 64 hosts, so it holds the groups of all that
match. -/
theorem noteGroups_eq (filter : List UInt8) {rows : List (Int × HostEntry)}
    (room : rows.length ≤ 64) :
    rows.foldl (noteGroup filter) ⟨[], false⟩ =
      ⟨groupsOf (rows.filter fun row => matchesFilter row.2 filter),
        decide (ungrouped (rows.filter fun row => matchesFilter row.2 filter) ≠ [])⟩ := by
  induction rows using List.reverseRecOn with
  | nil => rfl
  | append_singleton rows row ih =>
      rw [List.length_append, List.length_singleton] at room
      have few : (groupsOf (rows.filter fun row => matchesFilter row.2 filter)).length < 64 := by
        have kept := List.length_filter_le (fun row => matchesFilter row.2 filter) rows
        have short := groupsOf_length (rows.filter fun row => matchesFilter row.2 filter)
        omega
      rw [List.foldl_append, ih (by omega), List.foldl_cons, List.foldl_nil, List.filter_append,
        List.filter_cons, List.filter_nil]
      generalize rows.filter (fun row => matchesFilter row.2 filter) = before at few ⊢
      unfold noteGroup
      by_cases wanted : matchesFilter row.2 filter = true
      swap
      · rw [if_pos (by simpa using wanted), if_neg (by simpa using wanted), List.append_nil]
      rw [if_neg (by simp [wanted]), if_pos wanted, groupsOf_concat, ungrouped_concat]
      dsimp only
      by_cases noGroup : row.2.group.bytes = []
      · rw [if_pos noGroup, if_pos (Or.inl noGroup), if_pos noGroup]
        simp
      have known : ((groupsOf before).any fun g => decide (g.bytes = row.2.group.bytes)) = true ↔
          row.2.group ∈ groupsOf before := by
        rw [List.any_eq_true]
        constructor
        · rintro ⟨g, mem, same⟩
          rwa [CStr.ext (of_decide_eq_true same)] at mem
        · exact fun mem => ⟨_, mem, decide_eq_true rfl⟩
      rw [if_neg noGroup, if_neg noGroup, List.append_nil, CStr.copy_bytes, if_pos few]
      by_cases mem : row.2.group ∈ groupsOf before
      · rw [if_pos (known.mpr mem), if_pos (Or.inr mem)]
      · rw [if_neg (mt known.mp mem), if_neg (not_or.mpr ⟨noGroup, mem⟩)]

/-! ### The second pass -/

theorem addRows_eq (wanted : HostEntry → Bool) (rows : List (Int × HostEntry)) (list : HostList) :
    rows.foldl (addRow wanted) list =
      ⟨list.items ++ (rows.filter fun row => wanted row.2).map fun row => .row (hostRow row),
        list.renderedAny || rows.any fun row => wanted row.2⟩ := by
  induction rows generalizing list with
  | nil => simp
  | cons row rows ih =>
      rw [List.foldl_cons, ih, addRow]
      cases here : wanted row.2 with
      | false => simp [here]
      | true => simp [here]

/-- A header and the buttons below it. -/
theorem addSection_eq (text : List UInt8) (wanted : HostEntry → Bool)
    (rows : List (Int × HostEntry)) (list : HostList) :
    rows.foldl (addRow wanted) (list.label (.header text)) =
      ⟨list.items ++ listSection text (rows.filter fun row => wanted row.2),
        list.renderedAny || rows.any fun row => wanted row.2⟩ := by
  rw [addRows_eq, HostList.label, listSection, List.append_assoc]
  rfl

theorem addSections_eq (wanted : CStr 64 → HostEntry → Bool) (rows : List (Int × HostEntry))
    (groups : List (CStr 64)) (list : HostList) :
    groups.foldl (fun list g => rows.foldl (addRow (wanted g)) (list.label (.header g.bytes))) list =
      ⟨list.items ++ groups.flatMap fun g =>
          listSection g.bytes (rows.filter fun row => wanted g row.2),
        list.renderedAny || groups.any fun g => rows.any fun row => wanted g row.2⟩ := by
  induction groups generalizing list with
  | nil => simp
  | cons g groups ih =>
      rw [List.foldl_cons, ih, addSection_eq, List.flatMap_cons, List.any_cons, List.append_assoc,
        Bool.or_assoc]

theorem inGroup_matching (filter : List UInt8) (s : HostStore) (g : CStr 64) :
    inGroup (matchingRows filter s) g = (numbered s).filter fun row =>
      matchesFilter row.2 filter && decide (row.2.group.bytes = g.bytes) := by
  rw [inGroup, matchingRows, List.filter_filter]
  refine List.filter_congr fun row _ => ?_
  rw [Bool.and_comm, decide_eq_decide.mpr CStr.ext_iff]

theorem ungrouped_matching (filter : List UInt8) (s : HostStore) :
    ungrouped (matchingRows filter s) = (numbered s).filter fun row =>
      matchesFilter row.2 filter && decide (row.2.group.bytes = []) := by
  rw [ungrouped, matchingRows, List.filter_filter]
  exact List.filter_congr fun row _ => Bool.and_comm _ _

theorem any_eq_true_iff {p : Int × HostEntry → Bool} {rows : List (Int × HostEntry)} :
    rows.any p = true ↔ rows.filter p ≠ [] := by
  simp [List.filter_eq_nil_iff]

/-- A host that matches is in a group or in none. -/
theorem matching_ne_nil_iff {rows : List (Int × HostEntry)} :
    rows ≠ [] ↔ (∃ g ∈ groupsOf rows, inGroup rows g ≠ []) ∨ ungrouped rows ≠ [] := by
  constructor
  · intro some
    obtain ⟨row, mem⟩ := List.exists_mem_of_ne_nil rows some
    by_cases noGroup : row.2.group.bytes = []
    · exact Or.inr (List.ne_nil_of_mem (List.mem_filter.mpr ⟨mem, decide_eq_true noGroup⟩))
    · exact Or.inl ⟨row.2.group, mem_groupsOf.mpr ⟨noGroup, row, mem, rfl⟩,
        List.ne_nil_of_mem (List.mem_filter.mpr ⟨mem, decide_eq_true rfl⟩)⟩
  · rintro (⟨g, _, some⟩ | some) rfl
    · exact some rfl
    · exact some rfl

/-- `rendered_any`, behind the loop over the groups and the last one. -/
theorem renderedAny_iff (filter : List UInt8) (s : HostStore) :
    (((groupsOf (matchingRows filter s)).any fun g => (numbered s).any fun row =>
        matchesFilter row.2 filter && decide (row.2.group.bytes = g.bytes)) = true ∨
      ((numbered s).any fun row =>
        matchesFilter row.2 filter && decide (row.2.group.bytes = [])) = true) ↔
      matchingRows filter s ≠ [] := by
  rw [matching_ne_nil_iff, any_eq_true_iff, ← ungrouped_matching]
  simp only [List.any_eq_true (l := groupsOf (matchingRows filter s)), any_eq_true_iff,
    inGroup_matching]

/-- The end of `rebuild_host_list`. -/
theorem HostList.note_eq {filter : List UInt8} {s : HostStore} {list : HostList}
    (rendered : list.renderedAny = true ↔ matchingRows filter s ≠ []) :
    (if list.renderedAny then list.items
      else (list.label (.note (if s.hostStoreCount = 0 then noHostsText else noMatchText))).items) =
      list.items ++ emptyNote filter s := by
  unfold emptyNote
  by_cases none : matchingRows filter s = []
  · rw [if_pos none, if_neg fun yes => rendered.mp yes none]
    rfl
  · rw [if_neg none, if_pos (rendered.mpr none), List.append_nil]

/-- **What the two passes leave in the container.** -/
theorem rebuildHostList_eq (filter : List UInt8) (s : HostStore) :
    rebuildHostList true filter s =
      sections (matchingRows filter s) (groupsOf (matchingRows filter s)) ++ emptyNote filter s := by
  have seen : (numbered s).foldl (noteGroup filter) ⟨[], false⟩ =
      ⟨groupsOf (matchingRows filter s), decide (ungrouped (matchingRows filter s) ≠ [])⟩ :=
    noteGroups_eq filter (numbered_length s)
  have grouped := addSections_eq
    (fun g h => matchesFilter h filter && decide (h.group.bytes = g.bytes)) (numbered s)
    (groupsOf (matchingRows filter s)) ⟨[], false⟩
  have sectionOf : (fun g : CStr 64 => listSection g.bytes ((numbered s).filter fun row =>
      matchesFilter row.2 filter && decide (row.2.group.bytes = g.bytes))) =
      fun g => listSection g.bytes (inGroup (matchingRows filter s) g) :=
    funext fun g => congrArg (listSection g.bytes) (inGroup_matching filter s g).symm
  rw [sectionOf, List.nil_append, Bool.false_or] at grouped
  have rendered := renderedAny_iff filter s
  unfold rebuildHostList sections
  rw [if_neg (by decide)]
  dsimp only
  rw [seen]
  dsimp only
  rw [grouped]
  by_cases loners : ungrouped (matchingRows filter s) = []
  · have noSection : ¬ decide (ungrouped (matchingRows filter s) ≠ []) = true := by
      simpa using loners
    have notAlone : ¬ ((numbered s).any fun row =>
        matchesFilter row.2 filter && decide (row.2.group.bytes = [])) = true := by
      rw [any_eq_true_iff, ← ungrouped_matching]
      exact not_not_intro loners
    rw [or_iff_left notAlone] at rendered
    rw [if_neg noSection, if_pos loners, List.append_nil]
    exact HostList.note_eq rendered
  · have lastSection : decide (ungrouped (matchingRows filter s) ≠ []) = true := by
      simpa using loners
    rw [← Bool.or_eq_true] at rendered
    rw [if_pos lastSection, if_neg loners, addSection_eq, ← ungrouped_matching]
    exact HostList.note_eq rendered

/-! ### The rows that are shown -/

theorem listSection_rows (text : List UInt8) (rows : List (Int × HostEntry)) :
    (listSection text rows).filterMap ListItem.asRow = rows.map hostRow := by
  rw [listSection, List.filterMap_cons, List.filterMap_map, ← List.filterMap_eq_map]
  rfl

theorem sections_rows (rows : List (Int × HostEntry)) (groups : List (CStr 64)) :
    (sections rows groups).filterMap ListItem.asRow =
      (groups.flatMap (inGroup rows) ++ ungrouped rows).map hostRow := by
  have loners (text : List UInt8) : (if ungrouped rows = [] then [] else
      listSection text (ungrouped rows)).filterMap ListItem.asRow =
        (ungrouped rows).map hostRow := by
    split
    · rw [‹ungrouped rows = []›]
      rfl
    · exact listSection_rows _ _
  rw [sections, List.filterMap_append, loners, List.map_append, List.filterMap_flatMap,
    List.map_flatMap]
  simp only [listSection_rows]

theorem emptyNote_rows (filter : List UInt8) (s : HostStore) :
    (emptyNote filter s).filterMap ListItem.asRow = [] := by
  unfold emptyNote
  split
  · rfl
  · rfl

/-- **No host is lost and none is shown twice.** -/
theorem sections_perm (rows : List (Int × HostEntry)) :
    ((groupsOf rows).flatMap (inGroup rows) ++ ungrouped rows).Perm rows := by
  let named := rows.filter fun row => !decide (row.2.group.bytes = [])
  have nodup : (groupsOf rows).Nodup := (firstSeen_nodup _).filter _
  have sorted : ((groupsOf rows).flatMap fun g => named.filter fun row => row.2.group = g).Perm
      named := by
    refine buckets_perm nodup (fun row : Int × HostEntry => row.2.group) fun row mem => ?_
    obtain ⟨inRows, hasGroup⟩ := List.mem_filter.mp mem
    exact mem_groupsOf.mpr ⟨by simpa using hasGroup, row, inRows, rfl⟩
  have same : ((groupsOf rows).flatMap fun g => named.filter fun row => row.2.group = g) =
      (groupsOf rows).flatMap (inGroup rows) := by
    refine List.flatMap_congr fun g mem => ?_
    have hasName := (mem_groupsOf.mp mem).1
    rw [inGroup, List.filter_filter]
    refine List.filter_congr fun row _ => ?_
    by_cases here : row.2.group = g
    · simp [here, hasName]
    · simp [here]
  rw [same] at sorted
  refine ((sorted.append_right _).trans List.perm_append_comm).trans ?_
  exact List.filter_append_perm _ rows

theorem groupsOf_inOrder (rows : List (Int × HostEntry)) : GroupsInOrder rows (groupsOf rows) where
  named _ := mem_groupsOf
  order := (firstSeen_pairwise _).filter _

theorem note_not_mem_sections {text : List UInt8} {rows : List (Int × HostEntry)}
    {groups : List (CStr 64)} : .note text ∉ sections rows groups := by
  have inSection : ∀ header rows, ListItem.note text ∉ listSection header rows := by
    intro header rows
    simp [listSection]
  unfold sections
  rw [List.mem_append, List.mem_flatMap]
  rintro (⟨g, _, mem⟩ | mem)
  · exact inSection _ _ mem
  · split at mem
    · exact List.not_mem_nil mem
    · exact inSection _ _ mem

/-- **The rows are those of the hosts that match**, in some order. -/
theorem rows_perm (filter : List UInt8) (s : HostStore) :
    ((rebuildHostList true filter s).filterMap ListItem.asRow).Perm
      ((matchingRows filter s).map hostRow) := by
  rw [rebuildHostList_eq, List.filterMap_append, emptyNote_rows, List.append_nil, sections_rows]
  exact (sections_perm _).map hostRow

theorem mem_matchingRows {filter : List UInt8} {s : HostStore} {row : Int × HostEntry} :
    row ∈ matchingRows filter s ↔
      s.hostStoreGet row.1 = some row.2 ∧ matchesFilter row.2 filter = true := by
  rw [matchingRows, List.mem_filter, mem_numbered]

/-- A row that is shown is the one of a host. -/
theorem row_shown {filter : List UInt8} {s : HostStore} {r : HostRow}
    (mem : r ∈ (rebuildHostList true filter s).filterMap ListItem.asRow) :
    ∃ h, s.hostStoreGet r.click = some h ∧ r = hostRow (r.click, h) := by
  rw [(rows_perm filter s).mem_iff, List.mem_map] at mem
  obtain ⟨row, mem, rfl⟩ := mem
  exact ⟨row.2, (mem_matchingRows.mp mem).1, rfl⟩

/-- **A tap on the row of a host** opens it, or edits it if it is a serial one, as a long press
does. -/
theorem hostRow_opens {s : HostStore} {row : Int × HostEntry}
    (here : s.hostStoreGet row.1 = some row.2) :
    (hostRowLongPressCb s (hostRow row).longPress).name = row.2.name.bytes ∧
      hostRowClickCb s (hostRow row).click =
        match row.2.protocol with
        | .telnet => .openTelnet row.2
        | .ssh => .openSsh row.2
        | .serial => .edit (hostRowLongPressCb s (hostRow row).longPress) := by
  have low : 0 ≤ row.1 := by
    rw [hostStoreGet_eq, Option.ite_none_left_eq_some] at here
    omega
  constructor
  · rw [hostRowLongPressCb, hostRow, showEditScreen, if_pos low, here]
  · rw [hostRowClickCb, hostRow, here]
    cases protocol : row.2.protocol with
    | telnet => exact if_pos protocol
    | ssh => simp [protocol]
    | serial => simp [protocol, hostRowLongPressCb]

/-- **The host list shows every matching host exactly once**, in its group. -/
theorem rebuildHostList_listing (filter : List UInt8) (s : HostStore) :
    Listing filter s (rebuildHostList true filter s) := by
  have clicks : (((rebuildHostList true filter s).filterMap ListItem.asRow).map
      HostRow.click).Perm ((matchingRows filter s).map Prod.fst) := by
    refine ((rows_perm filter s).map HostRow.click).trans ?_
    rw [List.map_map]
    exact List.Perm.refl _
  refine ⟨?_, fun i => ?_, fun r mem => ?_, fun r mem => ?_,
    ⟨_, groupsOf_inOrder _, rebuildHostList_eq filter s⟩, ?_⟩
  · rw [clicks.nodup_iff]
    exact (numbered_nodup s).sublist (List.filter_sublist.map Prod.fst)
  · rw [clicks.mem_iff, List.mem_map]
    constructor
    · rintro ⟨row, mem, rfl⟩
      exact ⟨row.2, mem_matchingRows.mp mem⟩
    · rintro ⟨h, here⟩
      exact ⟨(i, h), mem_matchingRows.mpr here, rfl⟩
  · obtain ⟨h, here, shown⟩ := row_shown mem
    rw [shown]
    exact ⟨h, here, rfl, rfl⟩
  · obtain ⟨h, here, shown⟩ := row_shown mem
    rw [shown]
    exact ⟨h, here, @hostRow_opens s (r.click, h) here⟩
  · have alone : (∃ text, ListItem.note text ∈ rebuildHostList true filter s) ↔
        matchingRows filter s = [] := by
      rw [rebuildHostList_eq]
      simp only [List.mem_append, note_not_mem_sections, false_or, emptyNote]
      split
      · simp [*]
      · simp [*]
    rw [alone, List.eq_nil_iff_forall_not_mem]
    constructor
    · intro none i h here
      by_contra matched
      exact none (i, h) (mem_matchingRows.mpr ⟨here, by simpa using matched⟩)
    · intro none row mem
      obtain ⟨here, matched⟩ := mem_matchingRows.mp mem
      rw [none row.1 row.2 here] at matched
      cases matched

end Tab5
