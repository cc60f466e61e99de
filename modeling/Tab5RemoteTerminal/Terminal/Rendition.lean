/-
**Where a rendition comes from.**

Without SGR sequences nothing but the saved cursor brings a rendition other than the default one
onto a terminal in the default colours: every cell is written in the current rendition, and a reset
writes the default one. The slot of the saved cursor is zeroed memory until the first `ESC 7`
(`term_reset_state` leaves it alone), so an `ESC 8` before that makes black text on black:
`defaultColours_iff`.
-/

import Tab5RemoteTerminal.Terminal.AltScreen
import Tab5RemoteTerminal.Terminal.Cells
import Tab5RemoteTerminal.Terminal.Colours
import Tab5RemoteTerminal.Terminal.History

namespace Tab5

/-! ### The default colours -/

def DefaultCell (cell : TermCell) : Prop := cell.fg = defaultFg ∧ cell.bg = defaultBg

/-- The current rendition, every cell of both grids and every line of the scrollback. -/
structure DefaultColours (t : Terminal) : Prop where
  current : renditionOf t = defaultRendition
  grids : OnBothGrids DefaultCell t
  lines : ∀ row ∈ ringRows t, ∀ cell ∈ row, DefaultCell cell

/-- The `m` of an SGR sequence; one with a private marker is none. -/
def DispatchesSgr (t : Terminal) (c : UInt8) : Prop :=
  t.state = .csi ∧ t.csiPrivate = false ∧ c = 0x6D

/-- `ESC 8`. -/
def RestoresCursor (t : Terminal) (c : UInt8) : Prop := t.state = .esc ∧ c = 0x38

instance (t : Terminal) (c : UInt8) : Decidable (DispatchesSgr t c) := by
  unfold DispatchesSgr; infer_instance

instance (t : Terminal) (c : UInt8) : Decidable (RestoresCursor t c) := by
  unfold RestoresCursor; infer_instance

/-- No `ESC 8` comes before the first `ESC 7`. -/
def RestoresSaved : Terminal → List UInt8 → Prop
  | _, [] => True
  | t, c :: w => ¬ RestoresCursor t c ∧ (SavesCursor t c ∨ RestoresSaved (termPutc t c) w)

instance decidableRestoresSaved : (t : Terminal) → (w : List UInt8) → Decidable (RestoresSaved t w)
  | _, [] => isTrue trivial
  | t, c :: w =>
      have _ : Decidable (RestoresSaved (termPutc t c) w) :=
        decidableRestoresSaved (termPutc t c) w
      decidable_of_iff (¬ RestoresCursor t c ∧ (SavesCursor t c ∨ RestoresSaved (termPutc t c) w))
        Iff.rfl

/-- The rendition in the slot of the saved cursor. -/
def savedRendition (t : Terminal) : Rendition := ⟨t.savedFg, t.savedBg, t.savedAttrs⟩

/-! ### One byte -/

section Steps

variable {t : Terminal}

theorem csiFinal_rendition (t : Terminal) (params : List Int) {final : UInt8}
    (notSgr : final ≠ 0x6D) : renditionOf (csiFinal t params final) = renditionOf t := by
  unfold csiFinal
  split
  case h_7 =>
    obtain ⟨_, _, same⟩ := termEraseInDisplay_touches t (firstParam params)
    rw [same]
    rfl
  case h_8 =>
    obtain ⟨_, _, same⟩ := termEraseInLine_touches t (firstParam params)
    rw [same]
    rfl
  case h_9 => exact absurd rfl notSgr
  all_goals rfl

/-- The default rendition stays, unless SGR or `ESC 8` brings another. -/
theorem renditionOf_putc (current : renditionOf t = defaultRendition) {c : UInt8}
    (noSgr : ¬ DispatchesSgr t c)
    (restored : RestoresCursor t c → savedRendition t = defaultRendition) :
    renditionOf (termPutc t c) = defaultRendition := by
  have effect := termPutc_effect t c
  generalize termPutc t c = after at effect ⊢
  cases effect with
  | collects => exact current
  | saves => exact current
  | restores esc byte => exact restored ⟨esc, byte⟩
  | moves => exact current
  | resets =>
      obtain ⟨_, _, reset⟩ := resetScreen_touches { t with state := .normal }
      rw [reset]
      rfl
  | lineFeeds =>
      obtain ⟨_, _, _, _, _, _, _, fed⟩ := termLineFeed_touches { t with pendingWrap := false }
      rw [fed]
      exact current
  | prints =>
      obtain ⟨_, _, _, _, _, _, _, _, _, printed⟩ := termPutcPrint_touches t c
      rw [printed]
      exact current
  | dispatches csi =>
      unfold termDispatchCsi
      dsimp only
      split
      · split
        · obtain ⟨_, _, _, _, _, _, _, _, _, same⟩ := setPrivateModes_touches
            { t with state := .normal, pendingWrap := false } (csiParams { t with state := .normal })
            (c = 0x68)
          rw [same]
          exact current
        · exact current
      · rw [csiFinal_rendition]
        · exact current
        · exact fun sgr => noSgr ⟨csi, by simpa using ‹¬ _ = true›, sgr⟩

/-- `ESC 7` alone writes the rendition of the saved cursor. -/
theorem savedRendition_putc (t : Terminal) (c : UInt8) : savedRendition (termPutc t c) =
    if SavesCursor t c then renditionOf t else savedRendition t := by
  by_cases saves : SavesCursor t c
  · obtain ⟨esc, rfl⟩ := saves
    rw [if_pos ⟨esc, rfl⟩, termPutc_esc esc]
    rfl
  · rw [if_neg saves]
    have effect := termPutc_effect t c
    generalize termPutc t c = after at effect ⊢
    cases effect with
    | collects => rfl
    | saves esc byte => exact absurd ⟨esc, byte⟩ saves
    | restores => rfl
    | moves => rfl
    | resets =>
        obtain ⟨_, _, reset⟩ := resetScreen_touches { t with state := .normal }
        rw [reset]
        rfl
    | lineFeeds =>
        obtain ⟨_, _, _, _, _, _, _, fed⟩ := termLineFeed_touches { t with pendingWrap := false }
        rw [fed]
        rfl
    | prints =>
        obtain ⟨_, _, _, _, _, _, _, _, _, printed⟩ := termPutcPrint_touches t c
        rw [printed]
        rfl
    | dispatches =>
        rcases termDispatchCsi_touches { t with state := .normal } c with
          ⟨_, _, _, _, _, _, _, _, _, same⟩ | ⟨_, _, _, _, _, _, _, _, _, same⟩
        · rw [same]
          rfl
        · rw [same]
          rfl

/-- What `ESC 8` makes current. -/
theorem renditionOf_restored {c : UInt8} (restores : RestoresCursor t c) :
    renditionOf (termPutc t c) = savedRendition t := by
  obtain ⟨esc, rfl⟩ := restores
  rw [termPutc_esc esc]
  rfl

/-- The default colours, and what keeps them: the ring buffer in order and a region to scroll. -/
structure Plain (t : Terminal) : Prop where
  colours : DefaultColours t
  buffered : Buffered t
  region : ValidRegion t

/-- **One byte**, lines of the scrollback included. -/
theorem Plain.putc (plain : Plain t) {c : UInt8} (noSgr : ¬ DispatchesSgr t c)
    (restored : RestoresCursor t c → savedRendition t = defaultRendition) :
    Plain (termPutc t c) where
  colours := by
    obtain ⟨current, grids, held⟩ := plain.colours
    have colours : t.curFg = defaultFg ∧ t.curBg = defaultBg :=
      ⟨congrArg Rendition.fg current, congrArg Rendition.bg current⟩
    refine ⟨renditionOf_putc current noSgr restored,
      grids.putc plain.region colours ⟨rfl, rfl⟩ colours, fun row member => ?_⟩
    have lines : ringRows (termPutc t c) = (ringRows t ++ scrolledOff t (.feed c)).rtake 300 :=
      ringRows_step plain.buffered (.feed c)
    rw [lines, List.rtake] at member
    rcases List.mem_append.mp (List.mem_of_mem_drop member) with old | scrolled
    · exact held row old
    · rw [scrolledOff] at scrolled
      split at scrolled
      · rw [List.mem_singleton.mp scrolled]
        exact grids.main.row le_rfl (by decide)
      · cases scrolled
  buffered := plain.buffered.putc c
  region := plain.region.putc c

end Steps

/-! ### Runs -/

theorem terminalCreate_plain : Plain terminalCreate where
  colours := by
    refine ⟨rfl, ⟨?_, ?_⟩, ?_⟩
    · rw [terminalCreate_mainGrid]
      exact everyCell_cleared _ ⟨rfl, rfl⟩
    · rw [terminalCreate_altGrid]
      exact everyCell_cleared _ ⟨rfl, rfl⟩
    · rw [terminalCreate_ring]
      exact List.forall_mem_nil _
  buffered := terminalCreate_buffered
  region := by decide

/-- Once the default rendition is saved, nothing but SGR can bring another one. -/
theorem Plain.always {t : Terminal} (plain : Plain t)
    (saved : savedRendition t = defaultRendition) {w : List UInt8}
    (noSgr : Run.Meets termPutc (fun t c => ¬ DispatchesSgr t c) t w) :
    Run.Always termPutc DefaultColours t w := by
  have kept : Run.Always termPutc
      (fun t => Plain t ∧ savedRendition t = defaultRendition) t w := by
    refine Run.always_of_meets ?_ ⟨plain, saved⟩ noSgr
    rintro s c ⟨here, default⟩ notSgr
    refine ⟨here.putc notSgr fun _ => default, ?_⟩
    rw [savedRendition_putc]
    split
    · exact here.colours.current
    · exact default
  exact kept.mono fun s holds => holds.1.colours

theorem Plain.always_of_restoresSaved {t : Terminal} (plain : Plain t) {w : List UInt8}
    (noSgr : Run.Meets termPutc (fun t c => ¬ DispatchesSgr t c) t w)
    (restores : RestoresSaved t w) : Run.Always termPutc DefaultColours t w := by
  induction w generalizing t with
  | nil => exact Run.always_nil.mpr plain.colours
  | cons c w ih =>
      obtain ⟨notRestores, later⟩ := restores
      have next : Plain (termPutc t c) :=
        plain.putc noSgr.1 fun restores => absurd restores notRestores
      refine Run.always_cons.mpr ⟨plain.colours, ?_⟩
      rcases later with saves | later
      · refine next.always ?_ noSgr.2
        rw [savedRendition_putc, if_pos saves]
        exact plain.colours.current
      · exact ih next noSgr.2 later

/-- Colours that stay the default ones were not read from zeroed memory. -/
theorem restoresSaved_of_always {t : Terminal} (unsaved : savedRendition t ≠ defaultRendition)
    {w : List UInt8} (always : Run.Always termPutc DefaultColours t w) : RestoresSaved t w := by
  induction w generalizing t with
  | nil => trivial
  | cons c w ih =>
      obtain ⟨_, rest⟩ := Run.always_cons.mp always
      constructor
      · intro restores
        exact unsaved ((renditionOf_restored restores).symm.trans rest.first.current)
      · by_cases saves : SavesCursor t c
        · exact Or.inl saves
        · refine Or.inr (ih ?_ rest)
          rwa [savedRendition_putc, if_neg saves]

/-- **When rendition changes only through SGR**: exactly when every `ESC 8` comes after an
`ESC 7`. -/
theorem defaultColours_iff (w : List UInt8)
    (noSgr : Run.Meets termPutc (fun t c => ¬ DispatchesSgr t c) terminalCreate w) :
    Run.Always termPutc DefaultColours terminalCreate w ↔ RestoresSaved terminalCreate w :=
  ⟨restoresSaved_of_always (by decide), terminalCreate_plain.always_of_restoresSaved noSgr⟩

/-- `ESC 7`, text, `ESC 8`. -/
theorem defaultColours_iff_saved :
    Run.Always termPutc DefaultColours terminalCreate [0x1B, 0x37, 0x41, 0x1B, 0x38] :=
  (defaultColours_iff [0x1B, 0x37, 0x41, 0x1B, 0x38] (by decide +kernel)).mpr (by decide +kernel)

/-- `ESC 8` and a letter: black on black. -/
theorem defaultColours_fails :
    ¬ ∀ w : List UInt8, Run.Meets termPutc (fun t c => ¬ DispatchesSgr t c) terminalCreate w →
      Run.Always termPutc (fun t => OnScreen t.curRow t.curCol) terminalCreate w →
      Run.Always termPutc DefaultColours terminalCreate w := by
  intro stays
  have invisible := (stays [0x1B, 0x38, 0x41] (by decide +kernel) (by decide +kernel)).last
  have cell := invisible.grids.main 0 le_rfl (by decide)
  exact absurd cell.1 (by decide +kernel)

end Tab5
