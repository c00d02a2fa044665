import EntityMapper.Proofs.File.Paths
import EntityMapper.Proofs.Watch.History

/-!
# Readings that count as changes

Of the events of a watched file all but its deletion mark it, those that come with reading it
included. A watcher whose conversions are followed by such events returns a file that has changed
once at every flush that comes late enough.
-/

namespace EntityMapper.Watch

open File (Path Tree)

variable {τ : Type}

/-! ## Which events mark a file -/

/-- An event is for a file with a watched suffix. -/
def Event.IsWatched (e : Event) : Prop :=
  e.isDirectory = false ∧ e.path.lowerSuffix ∈ watchedSuffixes

/-- An event is a change iff it is watched and deletes nothing. -/
theorem Event.isChange_iff {e : Event} : e.isChange = true ↔ e.IsWatched ∧ e.kind ≠ .deleted := by
  simp [isChange, IsWatched, and_right_comm]

/-- The events that come with reading a file: it is opened and closed without writing. -/
def readingEvents (p : Path) : List Event :=
  [{ kind := .opened, source := p.toString }, { kind := .closedUnwritten, source := p.toString }]

/-- Reading a watched file marks it. -/
theorem isChange_of_mem_readingEvents {p : Path} (hnormal : p.IsNormal)
    (hwatched : p.lowerSuffix ∈ watchedSuffixes) {e : Event} (he : e ∈ readingEvents p) :
    e.isChange = true ∧ e.path = p := by
  have hpath : e.path = p := by
    have hread := Path.ofString_toString hnormal
    rcases List.mem_pair.mp he with rfl | rfl
    · exact hread
    · exact hread
  refine ⟨Event.isChange_iff.mpr ⟨⟨?_, hpath.symm ▸ hwatched⟩, ?_⟩, hpath⟩
  · rcases List.mem_pair.mp he with rfl | rfl <;> rfl
  · rcases List.mem_pair.mp he with rfl | rfl <;> simp

namespace Pending

/-- A marked path is pending since now. -/
theorem mem_mark_self (p : Path) (now : τ) (pending : Pending τ) :
    (p, now) ∈ mark p now pending := by
  induction pending with
  | nil => exact List.mem_singleton_self _
  | cons x rest ih =>
    rw [mark]
    split
    · exact List.mem_cons_self
    · exact List.mem_cons_of_mem _ ih

/-- A mark leaves the times of other paths. -/
theorem mem_mark_of_ne {p : Path} {x : Path × τ} (hne : x.1 ≠ p) (now : τ) {pending : Pending τ}
    (h : x ∈ pending) : x ∈ mark p now pending := by
  induction pending with
  | nil => cases h
  | cons y rest ih =>
    rw [mark]
    rcases List.mem_cons.mp h with rfl | h
    · rw [if_neg hne]
      exact List.mem_cons_self
    · split
      · exact List.mem_cons_of_mem _ h
      · exact List.mem_cons_of_mem _ (ih h)

end Pending

variable [Sub τ] [LE τ] [DecidableLE τ]

namespace Watcher

/-- A path that is marked by one of several events at a time is pending since then. -/
theorem mem_pending_of_events {p : Path} {now : τ} {es : List Event} {w : Watcher τ}
    (h : (∃ e ∈ es, e.isChange = true ∧ e.path = p) ∨ (p, now) ∈ w.pending) :
    (p, now) ∈ (w.after (es.map (.event now))).pending := by
  induction es generalizing w with
  | nil =>
    rcases h with ⟨e, he, -⟩ | h
    · cases he
    · exact h
  | cons e es ih =>
    refine ih (w := w.observe now e) ?_
    have hobserve : (w.observe now e).pending = w.pending.observe now e := rfl
    rw [hobserve, Pending.observe]
    by_cases hhere : e.isChange = true ∧ e.path = p
    · obtain ⟨hchange, rfl⟩ := hhere
      rw [if_pos hchange]
      exact .inr (Pending.mem_mark_self _ _ _)
    · rcases h with ⟨e', he', hmarks⟩ | h
      · rcases List.mem_cons.mp he' with rfl | he'
        · exact absurd hmarks hhere
        · exact .inl ⟨e', he', hmarks⟩
      · right
        split
        · rename_i hchange
          exact Pending.mem_mark_of_ne (fun hp => hhere ⟨hchange, hp.symm⟩) now h
        · exact h

/-! ## Rounds -/

/-- A flush of files as they then are, and when its conversions have read them. -/
structure Round (τ : Type) where
  flushed : τ
  files : Tree
  readAt : τ

/-- The calls of a round: the flush, and the events that come with reading the files that it
returns. -/
def round (w : Watcher τ) (r : Round τ) : List (Action τ) :=
  .flush r.flushed r.files ::
    ((w.flush r.files r.flushed).due.flatMap readingEvents).map (.event r.readAt)

/-- The paths that the flushes of rounds return. -/
def returned (w : Watcher τ) : List (Round τ) → List (List Path)
  | [] => []
  | r :: rs => (w.flush r.files r.flushed).due :: (w.after (w.round r)).returned rs

/-- Each round comes a quiet period after what went before, the first one after the given time. -/
def Late (quietPeriod : τ) : τ → List (Round τ) → Prop
  | _, [] => True
  | time, r :: rs => quietPeriod ≤ r.flushed - time ∧ Late quietPeriod r.readAt rs

/-- A path that a round returns is pending again after it. -/
theorem mem_pending_round {w : Watcher τ} {p : Path} (hnormal : p.IsNormal)
    (hwatched : p.lowerSuffix ∈ watchedSuffixes) {r : Round τ}
    (hdue : p ∈ (w.flush r.files r.flushed).due) :
    (p, r.readAt) ∈ (w.after (w.round r)).pending := by
  refine mem_pending_of_events (w := (w.flush r.files r.flushed).watcher) (.inl ?_)
  obtain ⟨e, he⟩ : ∃ e, e ∈ readingEvents p := ⟨_, List.mem_cons_self⟩
  exact ⟨e, List.mem_flatMap.mpr ⟨p, hdue, he⟩, isChange_of_mem_readingEvents hnormal hwatched he⟩

/-- A path that is pending is returned by every one of the rounds that come late enough. -/
theorem mem_returned {w : Watcher τ} {p : Path} (hnormal : p.IsNormal)
    (hwatched : p.lowerSuffix ∈ watchedSuffixes) {time : τ} (hp : (p, time) ∈ w.pending)
    {rs : List (Round τ)} (hlate : Late w.quietPeriod time rs) :
    ∀ due ∈ w.returned rs, p ∈ due := by
  induction rs generalizing w time with
  | nil => exact fun due hdue => absurd hdue List.not_mem_nil
  | cons r rs ih =>
    obtain ⟨hquiet, hlate⟩ := hlate
    have hfirst : p ∈ (w.flush r.files r.flushed).due :=
      Pending.mem_due_iff.mpr ⟨time, hp, hquiet⟩
    rw [returned, List.forall_mem_cons]
    refine ⟨hfirst, ih (mem_pending_round hnormal hwatched hfirst) ?_⟩
    rwa [after_quietPeriod]

/-- A path that is pending after calls is one that an event was judged by. -/
theorem isNormal_of_mem_pending (q : Conversion.Request) (quietPeriod : τ) {h : List (Action τ)}
    {p : Path} {time : τ} (hp : (p, time) ∈ ((fresh q quietPeriod).after h).pending) :
    p.IsNormal ∧ p.lowerSuffix ∈ watchedSuffixes := by
  have hm := remembers (w := fresh q quietPeriod) rfl h
  obtain ⟨i, ⟨⟨e, -, hchange, rfl⟩, -⟩, -⟩ := (hm.mem_iff p time).mp hp
  refine ⟨?_, (Event.isChange_iff.mp hchange).1.2⟩
  rw [Event.path]
  split
  · exact Path.isNormal_ofString _
  · exact Path.isNormal_ofString _

/-- Of the events of files with a watched suffix all but deletions mark their path, and no other
event changes what is pending. A path that no event marks any more is returned at most once; but
since reading a file comes with events that mark it, a file that has changed once is returned by
every flush that comes a quiet period after the conversions of the one before have read it. -/
theorem marks_and_returns_again (q : Conversion.Request) (quietPeriod : τ)
    (h : List (Action τ)) :
    (∀ now e, ((fresh q quietPeriod).after (h ++ [.event now e])).pending ≠
        ((fresh q quietPeriod).after h).pending → e.IsWatched ∧ e.kind ≠ .deleted) ∧
      (∀ now e, e.IsWatched → e.kind ≠ .deleted → ∀ x,
        x ∈ ((fresh q quietPeriod).after (h ++ [.event now e])).pending ↔
          x = (e.path, now) ∨ x.1 ≠ e.path ∧ x ∈ ((fresh q quietPeriod).after h).pending) ∧
      (∀ p i, (∀ k > i, ∀ now e, h[k]? = some (.event now e) → e.IsWatched → e.path = p →
          e.kind = .deleted) →
        ∀ j > i, ∀ k > i, (fresh q quietPeriod).ReturnedAt h p j →
          (fresh q quietPeriod).ReturnedAt h p k → j = k) ∧
      ∀ p time rs, (p, time) ∈ ((fresh q quietPeriod).after h).pending →
        Late quietPeriod time rs →
          ∀ due ∈ ((fresh q quietPeriod).after h).returned rs, p ∈ due := by
  have hm := remembers (w := fresh q quietPeriod) rfl h
  have hobserve (now : τ) (e : Event) :
      ((fresh q quietPeriod).after (h ++ [.event now e])).pending =
        ((fresh q quietPeriod).after h).pending.observe now e := by
    rw [after_append]
    rfl
  refine ⟨fun now e hchanges => ?_, fun now e hwatched hkind x => ?_, ?_, ?_⟩
  · rw [hobserve, Pending.observe] at hchanges
    by_contra hnot
    rw [if_neg (mt Event.isChange_iff.mp hnot)] at hchanges
    exact hchanges rfl
  · rw [hobserve, Pending.observe, if_pos (Event.isChange_iff.mpr ⟨hwatched, hkind⟩)]
    exact Pending.mem_mark_iff hm.nodup
  · intro p i hquiet
    have hbetween {j k : Nat} (hj : i < j) (hlt : j < k)
        (hreturned : (fresh q quietPeriod).ReturnedAt h p j)
        (hreturned' : (fresh q quietPeriod).ReturnedAt h p k) : False := by
      obtain ⟨m, time, hlow, -, e, he, hchange, hpath⟩ :=
        changed_between rfl hlt hreturned hreturned'
      obtain ⟨hwatched, hkind⟩ := Event.isChange_iff.mp hchange
      exact hkind (hquiet m (Nat.lt_trans hj hlow) time e he hwatched hpath)
    intro j hj k hk hreturned hreturned'
    rcases Nat.lt_trichotomy j k with hlt | heq | hgt
    · exact (hbetween hj hlt hreturned hreturned').elim
    · exact heq
    · exact (hbetween hk hgt hreturned' hreturned).elim
  · intro p time rs hp hlate
    obtain ⟨hnormal, hwatched⟩ := isNormal_of_mem_pending q quietPeriod hp
    refine mem_returned hnormal hwatched hp ?_
    rwa [after_quietPeriod]

/-- Three flushes, each some time after the conversions of the one before. -/
def threeRounds : List (Round Int) :=
  [⟨5, smallTree, 6⟩, ⟨10, smallTree, 11⟩, ⟨15, smallTree, 16⟩]

theorem marks_and_returns_again_threeRounds :
    (⟨.here, ["a.sql"]⟩, 0) ∈
      ((fresh {} (2 : Int)).after [.event 0 { source := "a.sql" }]).pending ∧
      Late (2 : Int) 0 threeRounds ∧
      ∀ due ∈ ((fresh {} (2 : Int)).after [.event 0 { source := "a.sql" }]).returned threeRounds,
        ⟨.here, ["a.sql"]⟩ ∈ due := by
  obtain ⟨-, -, -, hreturned⟩ :=
    marks_and_returns_again {} (2 : Int) [.event 0 { source := "a.sql" }]
  have hp : ((⟨.here, ["a.sql"]⟩, 0) : Path × Int) ∈
      ((fresh {} (2 : Int)).after [.event 0 { source := "a.sql" }]).pending := by
    decide +kernel
  have hlate : Late (2 : Int) 0 threeRounds := by
    simp [Late, threeRounds]
  exact ⟨hp, hlate, hreturned _ _ _ hp hlate⟩

/-- Opening a file and closing it without writing make it pending, and a file that has changed once
is converted in each of three rounds. -/
theorem pending_of_opened :
    ((fresh {} (2 : Int)).observe 0 { kind := .opened, source := "a.sql" }).pending.paths =
        [⟨.here, ["a.sql"]⟩] ∧
      ((fresh {} (2 : Int)).observe 0
        { kind := .closedUnwritten, source := "a.sql" }).pending.paths = [⟨.here, ["a.sql"]⟩] ∧
      ((fresh {} (2 : Int)).observe 0 { source := "a.sql" }).returned threeRounds =
        [[⟨.here, ["a.sql"]⟩], [⟨.here, ["a.sql"]⟩], [⟨.here, ["a.sql"]⟩]] := by
  refine ⟨?_, ?_, ?_⟩
  · decide +kernel
  · decide +kernel
  · decide +kernel

end Watcher

end EntityMapper.Watch
