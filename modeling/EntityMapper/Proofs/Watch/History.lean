import EntityMapper.Proofs.Conversion.Accounts
import EntityMapper.Proofs.Sql.Tables
import EntityMapper.Proofs.Watch.Conversions
import EntityMapper.Proofs.Watch.Pending
import Mathlib.Data.List.Induction
import Mathlib.Data.Nat.Find

/-!
# What a watcher remembers of its history

A watcher is called with events and flushes in any order, at any times, and finds the files as they
are at each flush. After every call the pending paths are those that have changed since a flush last
returned them, with the time of the last such change, in the order of the first such changes. So a
flush returns a path again only after a new change, and only if that is long enough ago.
-/

namespace EntityMapper.Watch

open File (Path Tree)

variable {τ : Type}

/-- A call of a watcher: something happens to a file, or files are flushed as they then are. -/
inductive Action (τ : Type) where
  | event (now : τ) (e : Event)
  | flush (now : τ) (files : Tree)

/-- A call is a change of a path at a time. -/
def ChangedAt (h : List (Action τ)) (p : Path) (i : Nat) (time : τ) : Prop :=
  ∃ e, h[i]? = some (.event time e) ∧ e.isChange = true ∧ e.path = p

/-- In a longer history the changes are those of the shorter one and that of the last action. -/
theorem changedAt_append_iff {h : List (Action τ)} {a : Action τ} {p : Path} {i : Nat} {time : τ} :
    ChangedAt (h ++ [a]) p i time ↔
      ChangedAt h p i time ∨ i = h.length ∧ ChangedAt [a] p 0 time := by
  obtain hlt | rfl | hgt := Nat.lt_trichotomy i h.length
  · simp only [ChangedAt, List.getElem?_append_left hlt]
    constructor
    · exact .inl
    · rintro (hc | ⟨heq, -⟩)
      · exact hc
      · omega
  · simp [ChangedAt]
  · have hbehind : (h ++ [a])[i]? = none := by simp; omega
    have hbeyond : h[i]? = none := by simp; omega
    simp only [ChangedAt, hbehind, hbeyond]
    constructor
    · rintro ⟨e, he, -⟩
      cases he
    · rintro (⟨e, he, -⟩ | ⟨heq, -⟩)
      · cases he
      · omega

/-- A change is one of the actions. -/
theorem ChangedAt.lt {h : List (Action τ)} {p : Path} {i : Nat} {time : τ}
    (hc : ChangedAt h p i time) : i < h.length := by
  obtain ⟨e, he, -⟩ := hc
  exact (List.getElem?_eq_some_iff.mp he).1

variable [Sub τ] [LE τ] [DecidableLE τ]

/-- The watcher after a call. -/
def Watcher.act (w : Watcher τ) : Action τ → Watcher τ
  | .event now e => w.observe now e
  | .flush now files => (w.flush files now).watcher

/-- The watcher after calls in order. -/
def Watcher.after (w : Watcher τ) (h : List (Action τ)) : Watcher τ :=
  h.foldl Watcher.act w

namespace Watcher

variable (w : Watcher τ)

/-- After a longer history the last action has followed the shorter one. -/
theorem after_append (h : List (Action τ)) (a : Action τ) :
    w.after (h ++ [a]) = (w.after h).act a := by
  rw [after, List.foldl_append]
  rfl

/-- A flush converts the paths that are due. -/
theorem run_flush (files : Tree) (now : τ) :
    (w.flush files now).run = convertPaths w.request files (w.flush files now).due :=
  rfl

@[simp] theorem after_request (h : List (Action τ)) : (w.after h).request = w.request := by
  induction h using List.reverseRecOn with
  | nil => rfl
  | append_singleton h a ih =>
    rw [after_append]
    cases a <;> exact ih

@[simp] theorem after_quietPeriod (h : List (Action τ)) :
    (w.after h).quietPeriod = w.quietPeriod := by
  induction h using List.reverseRecOn with
  | nil => rfl
  | append_singleton h a ih =>
    rw [after_append]
    cases a <;> exact ih

/-- A call is a flush that returns a path. -/
def ReturnedAt (h : List (Action τ)) (p : Path) (i : Nat) : Prop :=
  ∃ now files, h[i]? = some (.flush now files) ∧
    p ∈ ((w.after (h.take i)).flush files now).due

/-- A call is a change of a path which no flush since then has returned. -/
def OpenAt (h : List (Action τ)) (p : Path) (i : Nat) (time : τ) : Prop :=
  ChangedAt h p i time ∧ ∀ j > i, ¬ w.ReturnedAt h p j

/-- The last change of a path since a flush last returned it. -/
def LastOpen (h : List (Action τ)) (p : Path) (i : Nat) (time : τ) : Prop :=
  w.OpenAt h p i time ∧ ∀ j other, w.OpenAt h p j other → j ≤ i

/-- The first change of a path since a flush last returned it. -/
def FirstOpen (h : List (Action τ)) (p : Path) (i : Nat) : Prop :=
  (∃ time, w.OpenAt h p i time) ∧ ∀ j other, w.OpenAt h p j other → i ≤ j

variable {w} in
/-- Where the same changes are open, the same one is the last. -/
theorem lastOpen_congr {h h' : List (Action τ)} {p : Path}
    (hsame : ∀ i time, w.OpenAt h' p i time ↔ w.OpenAt h p i time) (i : Nat) (time : τ) :
    w.LastOpen h' p i time ↔ w.LastOpen h p i time := by
  simp only [LastOpen, hsame]

/-- The pending paths are those that have changed since a flush last returned them, with the times
of the last changes and in the order of the first ones. -/
structure Remembers (h : List (Action τ)) : Prop where
  mem_iff : ∀ p time, (p, time) ∈ (w.after h).pending ↔ ∃ i, w.LastOpen h p i time
  ordered : (w.after h).pending.paths.Pairwise fun p q =>
    ∃ i j, w.FirstOpen h p i ∧ w.FirstOpen h q j ∧ i < j

variable {w}

/-! ## One more call -/

/-- In a longer history the returns are those of the shorter one and those of a flush at its end. -/
theorem returnedAt_append_iff {h : List (Action τ)} {a : Action τ} {p : Path} {i : Nat} :
    w.ReturnedAt (h ++ [a]) p i ↔ w.ReturnedAt h p i ∨
      i = h.length ∧ ∃ now files, a = .flush now files ∧
        p ∈ ((w.after h).flush files now).due := by
  obtain hlt | rfl | hgt := Nat.lt_trichotomy i h.length
  · simp only [ReturnedAt, List.getElem?_append_left hlt,
      List.take_append_of_le_length (Nat.le_of_lt hlt)]
    constructor
    · exact .inl
    · rintro (hr | ⟨heq, -⟩)
      · exact hr
      · omega
  · simp [ReturnedAt]
  · have hbehind : (h ++ [a])[i]? = none := by simp; omega
    have hbeyond : h[i]? = none := by simp; omega
    simp only [ReturnedAt, hbehind, hbeyond]
    constructor
    · rintro ⟨_, _, ha, -⟩
      cases ha
    · rintro (⟨_, _, ha, -⟩ | ⟨heq, -⟩)
      · cases ha
      · omega

/-- A return is one of the actions. -/
theorem ReturnedAt.lt {h : List (Action τ)} {p : Path} {i : Nat} (hr : w.ReturnedAt h p i) :
    i < h.length := by
  obtain ⟨now, files, ha, -⟩ := hr
  exact (List.getElem?_eq_some_iff.mp ha).1

/-- An event opens a change of its path if it is one, and leaves the others open. -/
theorem openAt_event_iff {h : List (Action τ)} {now : τ} {e : Event} {p : Path} {i : Nat}
    {time : τ} : w.OpenAt (h ++ [.event now e]) p i time ↔
      w.OpenAt h p i time ∨ i = h.length ∧ time = now ∧ e.isChange = true ∧ e.path = p := by
  have hreturned (j : Nat) : w.ReturnedAt (h ++ [.event now e]) p j ↔ w.ReturnedAt h p j := by
    rw [returnedAt_append_iff]
    constructor
    · rintro (hr | ⟨-, _, _, ha, -⟩)
      · exact hr
      · cases ha
    · exact .inl
  have hchanged : ChangedAt [.event now e] p 0 time ↔
      time = now ∧ e.isChange = true ∧ e.path = p := by
    constructor
    · rintro ⟨e', he', hchange⟩
      cases he'
      exact ⟨rfl, hchange⟩
    · rintro ⟨rfl, hchange⟩
      exact ⟨e, rfl, hchange⟩
  simp only [OpenAt, changedAt_append_iff, hreturned, hchanged]
  constructor
  · rintro ⟨hc | hnew, hnone⟩
    · exact .inl ⟨hc, hnone⟩
    · exact .inr hnew
  · rintro (⟨hc, hnone⟩ | hnew)
    · exact ⟨.inl hc, hnone⟩
    · refine ⟨.inr hnew, fun j hj hr => ?_⟩
      have := hr.lt
      omega

/-- A flush closes the changes of the paths that it returns. -/
theorem openAt_flush_iff {h : List (Action τ)} {now : τ} {files : Tree} {p : Path} {i : Nat}
    {time : τ} : w.OpenAt (h ++ [.flush now files]) p i time ↔
      w.OpenAt h p i time ∧ p ∉ ((w.after h).flush files now).due := by
  have hchanged : ChangedAt (h ++ [.flush now files]) p i time ↔ ChangedAt h p i time := by
    rw [changedAt_append_iff]
    constructor
    · rintro (hc | ⟨-, _, he, -⟩)
      · exact hc
      · cases he
    · exact .inl
  rw [OpenAt, OpenAt, hchanged]
  constructor
  · rintro ⟨hc, hnone⟩
    refine ⟨⟨hc, fun j hj hr => hnone j hj (returnedAt_append_iff.mpr (.inl hr))⟩, fun hdue => ?_⟩
    exact hnone h.length hc.lt (returnedAt_append_iff.mpr (.inr ⟨rfl, now, files, rfl, hdue⟩))
  · rintro ⟨⟨hc, hnone⟩, hdue⟩
    refine ⟨hc, fun j hj hr => ?_⟩
    rcases returnedAt_append_iff.mp hr with hr | ⟨-, _, _, ha, hr⟩
    · exact hnone j hj hr
    · cases ha
      exact hdue hr

/-- An open change is one of the actions. -/
theorem OpenAt.lt {h : List (Action τ)} {p : Path} {i : Nat} {time : τ}
    (ho : w.OpenAt h p i time) : i < h.length :=
  ho.1.lt

/-- At most one change is the first open one of a path. -/
theorem FirstOpen.unique {h : List (Action τ)} {p : Path} {i j : Nat} (hi : w.FirstOpen h p i)
    (hj : w.FirstOpen h p j) : i = j := by
  obtain ⟨⟨time, hi⟩, hfirst⟩ := hi
  obtain ⟨⟨other, hj⟩, hfirst'⟩ := hj
  exact Nat.le_antisymm (hfirst j other hj) (hfirst' i time hi)

/-! ## What is remembered after one more call -/

/-- No path is pending twice. -/
theorem Remembers.nodup {h : List (Action τ)} (hm : w.Remembers h) :
    (w.after h).pending.paths.Nodup :=
  hm.ordered.imp fun ⟨i, j, hi, hj, hlt⟩ heq => by
    have := hi.unique (heq ▸ hj)
    omega

/-- A path is pending exactly if it has changed since a flush last returned it. -/
theorem Remembers.mem_paths_iff {h : List (Action τ)} (hm : w.Remembers h) {p : Path} :
    p ∈ (w.after h).pending.paths ↔ ∃ i time, w.OpenAt h p i time := by
  rw [Pending.mem_paths_iff]
  constructor
  · rintro ⟨time, hmem⟩
    obtain ⟨i, ho, -⟩ := (hm.mem_iff p time).mp hmem
    exact ⟨i, time, ho⟩
  · rintro ⟨i, time, ho⟩
    classical
    let k := Nat.findGreatest (fun k => ∃ u, w.OpenAt h p k u) h.length
    have hk : ∃ u, w.OpenAt h p k u :=
      Nat.findGreatest_spec (P := fun k => ∃ u, w.OpenAt h p k u) (Nat.le_of_lt ho.lt) ⟨time, ho⟩
    obtain ⟨u, hu⟩ := hk
    refine ⟨u, (hm.mem_iff p u).mpr ⟨k, hu, fun j other hj => ?_⟩⟩
    exact Nat.le_findGreatest (Nat.le_of_lt hj.lt) ⟨other, hj⟩

/-- Every pending path has a first open change. -/
theorem Remembers.exists_firstOpen {h : List (Action τ)} (hm : w.Remembers h) {p : Path}
    (hp : p ∈ (w.after h).pending.paths) : ∃ i, w.FirstOpen h p i := by
  classical
  have hopen := hm.mem_paths_iff.mp hp
  exact ⟨Nat.find hopen, Nat.find_spec hopen, fun j other hj => Nat.find_min' hopen ⟨other, hj⟩⟩

/-- A first change stays the first one when further changes come in. -/
theorem FirstOpen.event {h : List (Action τ)} {p : Path} {i : Nat} (hf : w.FirstOpen h p i)
    (now : τ) (e : Event) : w.FirstOpen (h ++ [.event now e]) p i := by
  obtain ⟨⟨time, ho⟩, hfirst⟩ := hf
  refine ⟨⟨time, openAt_event_iff.mpr (.inl ho)⟩, fun j other hj => ?_⟩
  rcases openAt_event_iff.mp hj with hj | ⟨rfl, -⟩
  · exact hfirst j other hj
  · exact Nat.le_of_lt ho.lt

/-- A flush that does not return a path leaves its first open change. -/
theorem FirstOpen.flush {h : List (Action τ)} {p : Path} {i : Nat} (hf : w.FirstOpen h p i)
    {now : τ} {files : Tree} (hdue : p ∉ ((w.after h).flush files now).due) :
    w.FirstOpen (h ++ [.flush now files]) p i := by
  obtain ⟨⟨time, ho⟩, hfirst⟩ := hf
  exact ⟨⟨time, openAt_flush_iff.mpr ⟨ho, hdue⟩⟩, fun j other hj =>
    hfirst j other (openAt_flush_iff.mp hj).1⟩

/-- After an event the watcher remembers its history with the event. -/
theorem Remembers.event {h : List (Action τ)} (hm : w.Remembers h) (now : τ) (e : Event) :
    w.Remembers (h ++ [.event now e]) := by
  have hafter : (w.after (h ++ [.event now e])).pending =
      (w.after h).pending.observe now e := by
    rw [after_append]
    rfl
  have hold : (w.after h).pending.paths.Pairwise fun p q => ∃ i j,
      w.FirstOpen (h ++ [.event now e]) p i ∧ w.FirstOpen (h ++ [.event now e]) q j ∧ i < j := by
    refine hm.ordered.imp ?_
    rintro p q ⟨i, j, hi, hj, hlt⟩
    exact ⟨i, j, hi.event now e, hj.event now e, hlt⟩
  by_cases hchange : e.isChange = true
  · have hmark : (w.after (h ++ [.event now e])).pending =
        Pending.mark e.path now (w.after h).pending := by
      rw [hafter, Pending.observe, if_pos hchange]
    have hnew : w.OpenAt (h ++ [.event now e]) e.path h.length now :=
      openAt_event_iff.mpr (.inr ⟨rfl, rfl, hchange, rfl⟩)
    constructor
    · intro p time
      rw [hmark, Pending.mem_mark_iff hm.nodup, Prod.mk.injEq]
      by_cases hp : p = e.path
      · subst hp
        constructor
        · rintro (⟨-, rfl⟩ | ⟨hne, -⟩)
          · refine ⟨h.length, hnew, fun j other hj => ?_⟩
            have := hj.lt
            simp at this
            omega
          · exact absurd rfl hne
        · rintro ⟨i, ho, hlast⟩
          rcases openAt_event_iff.mp ho with ho | ⟨-, rfl, -⟩
          · have := hlast h.length now hnew
            have := ho.lt
            omega
          · exact .inl ⟨rfl, rfl⟩
      · have hsame (i : Nat) (u : τ) :
            w.OpenAt (h ++ [.event now e]) p i u ↔ w.OpenAt h p i u := by
          rw [openAt_event_iff]
          exact ⟨fun ho => ho.resolve_right fun hnew => hp hnew.2.2.2.symm, .inl⟩
        simp only [lastOpen_congr hsame]
        rw [← hm.mem_iff p time]
        constructor
        · rintro (⟨heq, -⟩ | ⟨-, hmem⟩)
          · exact absurd heq hp
          · exact hmem
        · exact fun hmem => .inr ⟨hp, hmem⟩
    · rw [hmark, Pending.paths_mark]
      split
      · exact hold
      · rename_i hp
        refine List.pairwise_append.mpr ⟨hold, List.pairwise_singleton _ _, ?_⟩
        intro q hq p' hp'
        obtain rfl := List.mem_singleton.mp hp'
        obtain ⟨i, hi⟩ := hm.exists_firstOpen hq
        obtain ⟨⟨time, ho⟩, -⟩ := id hi
        refine ⟨i, h.length, hi.event now e, ⟨⟨now, hnew⟩, fun j other hj => ?_⟩, ho.lt⟩
        rcases openAt_event_iff.mp hj with hj | ⟨rfl, -⟩
        · exact absurd (hm.mem_paths_iff.mpr ⟨j, other, hj⟩) hp
        · exact Nat.le_refl _
  · have hopen (p : Path) (i : Nat) (u : τ) :
        w.OpenAt (h ++ [.event now e]) p i u ↔ w.OpenAt h p i u := by
      rw [openAt_event_iff]
      exact ⟨fun ho => ho.resolve_right fun hnew => hchange hnew.2.2.1, .inl⟩
    have hkept : (w.after (h ++ [.event now e])).pending = (w.after h).pending := by
      rw [hafter, Pending.observe, if_neg hchange]
    constructor
    · intro p time
      rw [hkept, hm.mem_iff p time]
      simp only [lastOpen_congr (hopen p)]
    · rw [hkept]
      exact hold

/-- After a flush the watcher remembers its history with the flush. -/
theorem Remembers.flush {h : List (Action τ)} (hm : w.Remembers h) (now : τ) (files : Tree) :
    w.Remembers (h ++ [.flush now files]) := by
  have hpending : (w.after (h ++ [.flush now files])).pending =
      (w.after h).pending.waiting (w.after h).quietPeriod now := by
    rw [after_append]
    rfl
  have hwaiting {x : Path × τ} : x ∈ (w.after (h ++ [.flush now files])).pending ↔
      x ∈ (w.after h).pending ∧ x.1 ∉ ((w.after h).flush files now).due := by
    rw [hpending]
    exact Pending.mem_waiting_iff_not_mem_due hm.nodup
  constructor
  · intro p time
    rw [hwaiting, hm.mem_iff p time]
    by_cases hdue : p ∈ ((w.after h).flush files now).due
    · constructor
      · exact fun hmem => absurd hdue hmem.2
      · rintro ⟨i, ho, -⟩
        exact absurd hdue (openAt_flush_iff.mp ho).2
    · have hsame (i : Nat) (u : τ) :
          w.OpenAt (h ++ [.flush now files]) p i u ↔ w.OpenAt h p i u := by
        rw [openAt_flush_iff]
        exact ⟨fun ho => ho.1, fun ho => ⟨ho, hdue⟩⟩
      simp only [lastOpen_congr hsame]
      exact ⟨fun hmem => hmem.1, fun hlast => ⟨hlast, hdue⟩⟩
  · have hsub : (w.after (h ++ [.flush now files])).pending.paths.Sublist
        (w.after h).pending.paths := by
      rw [hpending]
      exact Pending.waiting_sublist.map _
    refine (hm.ordered.sublist hsub).imp_of_mem fun {p q} hp hq ⟨i, j, hi, hj, hlt⟩ => ?_
    obtain ⟨t, ht⟩ := Pending.mem_paths_iff.mp hp
    obtain ⟨u, hu⟩ := Pending.mem_paths_iff.mp hq
    exact ⟨i, j, hi.flush (hwaiting.mp ht).2, hj.flush (hwaiting.mp hu).2, hlt⟩

/-- A watcher without pending paths remembers the empty history. -/
theorem remembers_nil (hw : w.pending = []) : w.Remembers [] := by
  have hafter : (w.after []).pending = [] := hw
  constructor
  · intro p time
    rw [hafter]
    constructor
    · intro hmem
      cases hmem
    · rintro ⟨i, ho, -⟩
      have := ho.lt
      simp at this
  · rw [hafter]
    exact .nil

/-- A watcher that begins with nothing pending remembers its history. -/
theorem remembers (hw : w.pending = []) (h : List (Action τ)) : w.Remembers h := by
  induction h using List.reverseRecOn with
  | nil => exact remembers_nil hw
  | append_singleton h a ih =>
    cases a with
    | event now e => exact ih.event now e
    | flush now files => exact ih.flush now files

/-! ## What a flush does -/

/-- A flush takes exactly the paths that have been quiet for long enough out of the pending ones,
each once and in their order, and converts them in that order. -/
structure FlushesExactly (w : Watcher τ) (files : Tree) (now : τ) : Prop where
  due_sublist : (w.flush files now).due.Sublist w.pending.paths
  due_nodup : (w.flush files now).due.Nodup
  mem_due_iff : ∀ p, p ∈ (w.flush files now).due ↔
    ∃ time, (p, time) ∈ w.pending ∧ w.quietPeriod ≤ now - time
  pending_sublist : (w.flush files now).watcher.pending.Sublist w.pending
  mem_pending_iff : ∀ x, x ∈ (w.flush files now).watcher.pending ↔
    x ∈ w.pending ∧ x.1 ∉ (w.flush files now).due
  converted : (w.flush files now).run.failure = none → ∃ steps : List (Path × Conversion.Run),
    steps.map (·.1) = (w.flush files now).due ∧
      Conversions w.request files steps (w.flush files now).run.tree ∧
      (w.flush files now).run.report = Conversion.Report.joined (steps.map (·.2.report))

/-- Every flush converts exactly the paths that are due. -/
theorem flushesExactly (hw : w.pending.paths.Nodup) (files : Tree) (now : τ) :
    w.FlushesExactly files now where
  due_sublist := Pending.due_sublist
  due_nodup := hw.sublist Pending.due_sublist
  mem_due_iff _ := Pending.mem_due_iff
  pending_sublist := Pending.waiting_sublist
  mem_pending_iff _ := Pending.mem_waiting_iff_not_mem_due hw
  converted hreturns := conversions_of_returns hreturns

/-- A call that flushes returns the paths whose last change, since they were last returned, is long
enough ago. -/
theorem returnedAt_iff (hw : w.pending = []) {h : List (Action τ)} {j : Nat} {now : τ}
    {files : Tree} (hj : h[j]? = some (.flush now files)) (p : Path) :
    w.ReturnedAt h p j ↔
      ∃ i time, w.LastOpen (h.take j) p i time ∧ w.quietPeriod ≤ now - time := by
  have hm := remembers hw (h.take j)
  have hdue := (flushesExactly hm.nodup files now).mem_due_iff p
  rw [after_quietPeriod] at hdue
  constructor
  · rintro ⟨now', files', hj', hp⟩
    obtain ⟨rfl, rfl⟩ := Action.flush.inj (Option.some.inj (hj.symm.trans hj'))
    obtain ⟨time, hmem, hquiet⟩ := hdue.mp hp
    obtain ⟨i, hi⟩ := (hm.mem_iff p time).mp hmem
    exact ⟨i, time, hi, hquiet⟩
  · rintro ⟨i, time, hi, hquiet⟩
    exact ⟨now, files, hj, hdue.mpr ⟨time, (hm.mem_iff p time).mpr ⟨i, hi⟩, hquiet⟩⟩

/-- Between two flushes that return a path the path has changed. -/
theorem changed_between (hw : w.pending = []) {h : List (Action τ)} {p : Path} {i j : Nat}
    (hlt : i < j) (hi : w.ReturnedAt h p i) (hj : w.ReturnedAt h p j) :
    ∃ k time, i < k ∧ k < j ∧ ChangedAt h p k time := by
  obtain ⟨now, files, hflush, -⟩ := id hj
  obtain ⟨k, time, ⟨⟨hchanged, hnone⟩, -⟩, -⟩ := (returnedAt_iff hw hflush p).mp hj
  have hjlt := hj.lt
  have hk : k < j := by
    have := hchanged.lt
    simp at this
    omega
  obtain ⟨e, he, hchange⟩ := hchanged
  rw [List.getElem?_take_of_lt hk] at he
  refine ⟨k, time, ?_, hk, e, he, hchange⟩
  obtain ⟨now', files', hi', hp⟩ := hi
  by_contra hle
  obtain hik | rfl := Nat.lt_or_eq_of_le (Nat.le_of_not_lt hle)
  · refine hnone i hik ⟨now', files', ?_, ?_⟩
    · rw [List.getElem?_take_of_lt hlt, hi']
    · rwa [List.take_take, Nat.min_eq_left (Nat.le_of_lt hlt)]
  · rw [hi'] at he
    cases he

/-- A watcher with nothing pending. -/
def fresh (q : Conversion.Request) (quietPeriod : τ) : Watcher τ :=
  { request := q, quietPeriod := quietPeriod }

/-- After any calls a watcher remembers exactly the paths that have changed since a flush last
returned them, and a flush returns and converts exactly those that have been quiet since for long
enough. So a path is returned once for all changes since it was last returned, and each change makes
it wait anew. -/
theorem debounces (q : Conversion.Request) (quietPeriod : τ) (h : List (Action τ)) :
    (fresh q quietPeriod).Remembers h ∧
      (∀ files now, ((fresh q quietPeriod).after h).FlushesExactly files now) ∧
      (∀ p i j, i < j → (fresh q quietPeriod).ReturnedAt h p i →
        (fresh q quietPeriod).ReturnedAt h p j → ∃ k time, i < k ∧ k < j ∧ ChangedAt h p k time) ∧
      ∀ j now files, h[j]? = some (.flush now files) → ∀ p,
        (fresh q quietPeriod).ReturnedAt h p j ↔ ∃ i time,
          (fresh q quietPeriod).LastOpen (h.take j) p i time ∧ quietPeriod ≤ now - time := by
  have hm := remembers (w := fresh q quietPeriod) rfl h
  refine ⟨hm, flushesExactly hm.nodup, ?_, ?_⟩
  · intro p i j hlt hi hj
    exact changed_between rfl hlt hi hj
  · intro j now files hj p
    exact returnedAt_iff rfl hj p

/-- A file that declares a table. -/
def smallTree : Tree where
  files := [(["a.sql"], "CREATE TABLE t (id INT)".toList.map fun c => UInt8.ofNat c.toNat)]

theorem inputs_smallTree : Conversion.inputs smallTree "" "a.sql" =
    .ok [⟨"a.sql", "CREATE TABLE t (id INT)"⟩] := by
  decide +kernel

theorem read_smallTree : Sql.read "CREATE TABLE t (id INT)" =
    ⟨.ok ⟨"t", "T", [⟨"id", "id", .integer, "INT", false, false, true, false⟩]⟩, []⟩ :=
  Sql.read_of_isStatement (by decide +kernel)

theorem returns_smallTree : (conversion {} smallTree ⟨.here, ["a.sql"]⟩).failure = none := by
  rw [conversion, show (File.Path.mk .here ["a.sql"]).toString = "a.sql" by decide +kernel,
    Conversion.failure_run inputs_smallTree, Conversion.Request.convertAll_singleton,
    Conversion.convertInput_of_read rfl rfl _ _ read_smallTree]
  decide +kernel

/-- Two changes of one file, spelled in two ways, and a flush soon after. -/
def burst : List (Action Int) :=
  [.event 0 { source := "a.sql" }, .event 1 { source := "./a.sql" }, .flush 2 smallTree,
   .flush 3 smallTree]

theorem debounces_burst :
    (fresh {} (2 : Int)).ReturnedAt burst ⟨.here, ["a.sql"]⟩ 3 ∧
      ¬ (fresh {} (2 : Int)).ReturnedAt burst ⟨.here, ["a.sql"]⟩ 2 ∧
      ∃ steps : List (Path × Conversion.Run), steps.map (·.1) = [⟨.here, ["a.sql"]⟩] ∧
        Conversions {} smallTree steps
          (((fresh {} (2 : Int)).after (burst.take 3)).flush smallTree 3).run.tree := by
  obtain ⟨-, -, honce, -⟩ := debounces {} (2 : Int) burst
  obtain ⟨-, hflush, -, -⟩ := debounces {} (2 : Int) (burst.take 3)
  have hdue : (((fresh {} (2 : Int)).after (burst.take 3)).flush smallTree 3).due =
      [⟨.here, ["a.sql"]⟩] := by
    decide +kernel
  have hrun : (((fresh {} (2 : Int)).after (burst.take 3)).flush smallTree 3).run =
      convertPaths {} smallTree [⟨.here, ["a.sql"]⟩] := by
    rw [run_flush, after_request, hdue]
    rfl
  have hreturns : (((fresh {} (2 : Int)).after (burst.take 3)).flush smallTree 3).run.failure =
      none := by
    rw [hrun, convertPaths_cons_of_returns returns_smallTree]
    rfl
  obtain ⟨steps, hpaths, hsteps, -⟩ := (hflush smallTree 3).converted hreturns
  have hlate : (fresh {} (2 : Int)).ReturnedAt burst ⟨.here, ["a.sql"]⟩ 3 :=
    ⟨3, smallTree, rfl, hdue ▸ List.mem_singleton_self _⟩
  refine ⟨hlate, fun hearly => ?_, steps, hpaths.trans hdue, hsteps⟩
  obtain ⟨k, time, hlow, hhigh, -⟩ := honce _ 2 3 (by decide) hearly hlate
  omega

end Watcher

end EntityMapper.Watch
