import TypedTables.Proofs.QueryResult.Rows

/-!
# A cursor is released once

A result closes its cursor exactly once, whatever is done with it until it is dropped and whatever the cursor answers:
when an advance comes to the end of the rows, when the result is closed, behind the first row, or with the drop,
whichever is first (`released_once`). Cursors are watched for this. A watched cursor notes how it is advanced and closed,
and when it has been closed it answers reads as it likes, so that a read of a closed cursor would show. -/

namespace TypedTables

/-! ### Watched cursors -/

/-- A call that changes a cursor, with its answer. -/
inductive CursorCall where
  | advance (answer : Except Error Bool)
  | close

/-- A cursor with the calls made of it. When it is closed, reads are answered by `late`. -/
structure Watched (γ : Type) where
  inner : γ
  late : Nat → RootType → Except Error Value
  isClosed : Bool := false
  calls : List CursorCall := []

instance {γ : Type} [RowCursor γ] : RowCursor (Watched γ) where
  advance c :=
    let (answer, inner) := RowCursor.advance c.inner
    (answer, { c with inner := inner, calls := c.calls ++ [.advance answer] })
  read c := if c.isClosed then c.late else RowCursor.read c.inner
  isNull c := RowCursor.isNull c.inner
  close c := { c with inner := RowCursor.close c.inner, isClosed := true, calls := c.calls ++ [.close] }

theorem Watched.advance_of {γ : Type} [RowCursor γ] {w : Watched γ} {answer : Except Error Bool} {c : γ}
    (h : RowCursor.advance w.inner = (answer, c)) :
    RowCursor.advance w = (answer, { w with inner := c, calls := w.calls ++ [.advance answer] }) := by
  obtain ⟨rfl, rfl⟩ := Prod.mk.inj h
  rfl

instance {γ : Type} [FiniteCursor γ] : FiniteCursor (Watched γ) where
  toRowCursor := inferInstance
  rowsLeft c := FiniteCursor.rowsLeft c.inner
  rowsLeft_advance c h := FiniteCursor.rowsLeft_advance c.inner h

namespace QueryResult

variable {κ ρ γ : Type} [Kinds κ] {schema : Schema κ ρ}

/-! ### Consumers -/

section
variable [RowCursor γ]

/-- The rows that a walk collects, and the result behind it. The walk ends with the rows or at the first failure, and
    has no outcome over a cursor whose rows never end. -/
inductive Drains : QueryResult schema γ → Except Error (List ρ) → QueryResult schema γ → Prop where
  | stopped {r s} (h : r.next = (.ok none, s)) : Drains r (.ok []) s
  | failed {r s} {e : Error} (h : r.next = (.error e, s)) : Drains r (.error e) s
  | more {r s t} {row : ρ} {rows} (h : r.next = (.ok (some row), s)) (rest : Drains s rows t) :
    Drains r (rows.map (row :: ·)) t

/-- What a consumer does with a result. What `first` and `collect` leave of it is then dropped. -/
inductive Act where
  | pull (pull : Pull)
  | close
  | first
  | collect
  | drop

/-- The act answers so and leaves the result so. -/
inductive Act.Does : Act → QueryResult schema γ → Answer ρ → QueryResult schema γ → Prop where
  | pull (pull : Pull) (r) : Does (.pull pull) r (pull.run r).1 (pull.run r).2
  | close (r) : Does .close r .nothing r.close
  | first (r) : Does .first r (.row r.first.1) r.first.2
  | collect {r rows s} (h : Drains r rows s) : Does .collect r (.rows rows) s
  | drop (r) : Does .drop r .nothing r.close

/-- The acts one after the other are answered so. -/
inductive Answered : List Act → QueryResult schema γ → List (Answer ρ) → Prop where
  | nil (r) : Answered [] r []
  | cons {act acts r answer s answers} (first : act.Does r answer s) (rest : Answered acts s answers) :
    Answered (act :: acts) r (answer :: answers)

end

/-- Over a cursor that comes to an end, walks are what the result drains. -/
theorem drains_iff [FiniteCursor γ] {r s : QueryResult schema γ} {rows : Except Error (List ρ)} :
    Drains r rows s ↔ r.drain = (rows, s) := by
  constructor
  · intro h
    induction h with
    | stopped h => exact drain_of_none h
    | failed h => exact drain_of_error h
    | more h _ ih => rw [drain_of_some h, ih]
  · intro h
    fun_induction drain r generalizing rows s with
    | case1 r e s' step =>
      cases h
      exact .failed step
    | case2 r s' step =>
      cases h
      exact .stopped step
    | case3 r row s' step rest t walked ih =>
      cases h
      exact .more step (ih walked)

theorem exists_drains [FiniteCursor γ] (r : QueryResult schema γ) : ∃ rows s, Drains r rows s :=
  ⟨_, _, drains_iff.mpr rfl⟩

/-! ### Lives of watched results -/

variable [RowCursor γ]

/-- An act with its answer, the calls that it makes of the cursor, and whether the result is closed behind it. -/
structure Passage (ρ : Type) where
  act : Act
  answer : Answer ρ
  calls : List CursorCall
  isClosed : Bool

/-- The passage of an act that leaves the result so. -/
def passage (act : Act) (answer : Answer ρ) (s : QueryResult schema (Watched γ)) : Passage ρ :=
  ⟨act, answer, s.cursor.calls, s.isClosed⟩

/-- The result with no call noted. -/
def fresh (r : QueryResult schema (Watched γ)) : QueryResult schema (Watched γ) :=
  { r with cursor := { r.cursor with calls := [] } }

/-- What becomes of a watched result by acts one after the other. -/
inductive Life : List Act → QueryResult schema (Watched γ) → List (Passage ρ) → Prop where
  | nil (r) : Life [] r []
  | cons {act acts r answer s passages} (first : act.Does r.fresh answer s) (rest : Life acts s passages) :
    Life (act :: acts) r (passage act answer s :: passages)

/-- The act releases the cursor, if that has not been done. -/
def Act.releases : Act → Bool
  | close | first | drop => true
  | pull _ | collect => false

namespace Passage

/-- No advance has come to the end, nothing has asked for the release, and the result is open. -/
structure IsOpen (p : Passage ρ) : Prop where
  act : p.act.releases = false
  calls : ∃ answers : List (Except Error Bool), .ok false ∉ answers ∧ p.calls = answers.map .advance
  isClosed : p.isClosed = false

/-- The cursor is closed, and nothing else after that, because an advance has come to the end or because the act closes
    it. -/
structure Releases (p : Passage ρ) : Prop where
  calls : ∃ answers : List (Except Error Bool), .ok false ∉ answers ∧
    (p.calls = answers.map .advance ++ [.advance (.ok false), .close] ∨
      p.act.releases = true ∧ p.calls = answers.map .advance ++ [.close])
  isClosed : p.isClosed = true

/-- The cursor is left alone. -/
structure IsIdle (p : Passage ρ) : Prop where
  calls : p.calls = []
  isClosed : p.isClosed = true

end Passage

/-- The cursor is closed once. -/
def ReleasedOnce (passages : List (Passage ρ)) : Prop :=
  ∃ before p after, passages = before ++ p :: after ∧ (∀ b ∈ before, b.IsOpen) ∧ p.Releases ∧ ∀ a ∈ after, a.IsIdle

/-! ### Steps -/

section
variable {r s : QueryResult schema γ}

theorem next_of_closed (h : r.isClosed = true) : r.next = (.ok none, r) := by
  rw [next, if_pos h]

theorem close_of_closed (h : r.isClosed = true) : r.close = r := by
  rw [close, if_pos h]

theorem close_of_open (h : r.isClosed = false) : r.close = ⟨RowCursor.close r.cursor, true⟩ := by
  rw [close, if_neg (by simp [h])]

/-- What a step can be that finds the result open. -/
inductive Stepped (r : QueryResult schema γ) : Except Error (Option ρ) × QueryResult schema γ → Prop where
  | failed {e : Error} {c : γ} (h : RowCursor.advance r.cursor = (.error e, c)) : Stepped r (.error e, ⟨c, false⟩)
  | ended {c : γ} (h : RowCursor.advance r.cursor = (.ok false, c)) : Stepped r (.ok none, ⟨RowCursor.close c, true⟩)
  | came {c : γ} (h : RowCursor.advance r.cursor = (.ok true, c)) :
    Stepped r ((schema.materialise (RowCursor.read c)).map some, ⟨c, false⟩)

theorem next_stepped (h : r.isClosed = false) : Stepped r r.next := by
  obtain ⟨cursor, closed⟩ := r
  cases h
  rw [next, if_neg (by simp)]
  split
  · next e c step => exact .failed step
  · next c step => exact .ended step
  · next c step => exact .came step

theorem Pull.run_snd (pull : Pull) : (pull.run r).2 = r.next.2 := by
  cases pull with
  | next => rfl
  | step =>
    rw [run, QueryResult.step]
    split <;> simp_all

end

/-! ### Calls of an act -/

section
variable {r s t : QueryResult schema (Watched γ)}

/-- How pulls leave a result that was open: it is open still, or closed by the advance that came to the end. -/
inductive Went (r s : QueryResult schema (Watched γ)) : Prop where
  | on (answers : List (Except Error Bool)) (more : .ok false ∉ answers)
      (calls : s.cursor.calls = r.cursor.calls ++ answers.map .advance) (isOpen : s.isClosed = false)
  | out (answers : List (Except Error Bool)) (more : .ok false ∉ answers)
      (calls : s.cursor.calls = r.cursor.calls ++ (answers.map .advance ++ [.advance (.ok false), .close]))
      (isClosed : s.isClosed = true)

omit [RowCursor γ] in
theorem Went.refl (h : r.isClosed = false) : Went r r := .on [] (by simp) (List.append_nil _).symm h

omit [RowCursor γ] in
theorem Went.trans (first : Went r s) (rest : s.isClosed = false → Went s t) (idle : s.isClosed = true → t = s) :
    Went r t := by
  cases first with
  | out answers more calls closed =>
    -- What is closed stays as it is, so the calls are those of the first part.
    rw [idle closed]
    exact .out answers more calls closed
  | on answers more calls isOpen =>
    have both {others : List (Except Error Bool)} (h : .ok false ∉ others) : .ok false ∉ answers ++ others := by
      rw [List.mem_append, not_or]
      exact ⟨more, h⟩
    cases rest isOpen with
    | on others more' calls' isOpen' =>
      refine .on (answers ++ others) (both more') ?_ isOpen'
      rw [calls', calls, List.append_assoc, List.map_append]
    | out others more' calls' closed =>
      refine .out (answers ++ others) (both more') ?_ closed
      rw [calls', calls, List.append_assoc, List.map_append, List.append_assoc]

theorem went_next (h : r.isClosed = false) : Went r r.next.2 := by
  have noted {answer : Except Error Bool} {c : Watched γ} (step : RowCursor.advance r.cursor = (answer, c)) :
      c.calls = r.cursor.calls ++ [.advance answer] := by
    cases step
    rfl
  have stepped := next_stepped h
  generalize r.next = outcome at stepped ⊢
  cases stepped with
  | failed step => exact .on [_] (by simp) (noted step) rfl
  | came step => exact .on [_] (by simp) (noted step) rfl
  | ended step =>
    refine .out [] (by simp) ?_ rfl
    show Watched.calls _ ++ [_] = _
    rw [noted step, List.append_assoc]
    rfl

theorem Drains.eq_of_closed {rows : Except Error (List ρ)} (h : Drains r rows s) (closed : r.isClosed = true) :
    s = r := by
  have idle := next_of_closed closed
  cases h with
  | stopped h => exact (congrArg Prod.snd (h.symm.trans idle))
  | failed h => cases h.symm.trans idle
  | more h _ => cases h.symm.trans idle

theorem Drains.went {rows : Except Error (List ρ)} (h : Drains r rows s) (isOpen : r.isClosed = false) : Went r s := by
  induction h with
  | stopped h =>
    have first := went_next isOpen
    rwa [h] at first
  | failed h =>
    have first := went_next isOpen
    rwa [h] at first
  | more h rest ih =>
    have first := went_next isOpen
    rw [h] at first
    exact first.trans ih rest.eq_of_closed

end

/-! ### Passages -/

section
variable {act : Act} {r s t : QueryResult schema (Watched γ)} {answer : Answer ρ}

omit [RowCursor γ] in
theorem Went.open_or_releases (h : Went r.fresh s) (pulls : act.releases = false) :
    (passage act answer s).IsOpen ∨ (passage act answer s).Releases := by
  cases h with
  | on answers more calls isOpen => exact Or.inl ⟨pulls, ⟨answers, more, calls⟩, isOpen⟩
  | out answers more calls closed => exact Or.inr ⟨⟨answers, more, Or.inl calls⟩, closed⟩

theorem Went.releases (h : Went r.fresh s) (asks : act.releases = true) : (passage act answer s.close).Releases := by
  cases h with
  | out answers more calls closed =>
    rw [close_of_closed closed]
    exact ⟨⟨answers, more, Or.inl calls⟩, closed⟩
  | on answers more calls isOpen =>
    rw [close_of_open isOpen]
    refine ⟨⟨answers, more, Or.inr ⟨asks, ?_⟩⟩, rfl⟩
    show s.cursor.calls ++ [_] = _
    rw [calls]
    rfl

/-- An act on an open result goes on or releases the cursor. -/
theorem Act.Does.open_or_releases (h : act.Does r.fresh answer s) (isOpen : r.isClosed = false) :
    (passage act answer s).IsOpen ∨ (passage act answer s).Releases := by
  have isOpen : r.fresh.isClosed = false := isOpen
  cases h with
  | pull pull =>
    rw [pull.run_snd]
    exact (went_next isOpen).open_or_releases rfl
  | collect h => exact (h.went isOpen).open_or_releases rfl
  | close => exact Or.inr ((Went.refl isOpen).releases rfl)
  | drop => exact Or.inr ((Went.refl isOpen).releases rfl)
  | first => exact Or.inr ((went_next isOpen).releases rfl)

theorem Act.Does.idle (h : act.Does r.fresh answer s) (closed : r.isClosed = true) : (passage act answer s).IsIdle := by
  suffices same : s = r.fresh from
    ⟨congrArg (fun r => r.cursor.calls) same, (congrArg QueryResult.isClosed same).trans closed⟩
  have closed : r.fresh.isClosed = true := closed
  have idle := congrArg Prod.snd (next_of_closed closed)
  cases h with
  | pull pull => rw [pull.run_snd, idle]
  | close => exact close_of_closed closed
  | first => rw [QueryResult.first, idle, close_of_closed closed]
  | collect h => exact h.eq_of_closed closed
  | drop => exact close_of_closed closed

theorem Life.idle {acts : List Act} {passages : List (Passage ρ)} (life : Life acts r passages)
    (closed : r.isClosed = true) : ∀ p ∈ passages, p.IsIdle := by
  induction life with
  | nil => exact fun p hp => nomatch hp
  | cons first rest ih =>
    have idle := first.idle closed
    exact List.forall_mem_cons.mpr ⟨idle, ih idle.isClosed⟩

/-- Along a life the result stays open, or its cursor is released once. -/
theorem Life.open_or_released {acts : List Act} {passages : List (Passage ρ)} (life : Life acts r passages)
    (isOpen : r.isClosed = false) : (∀ p ∈ passages, p.IsOpen) ∨ ReleasedOnce passages := by
  induction life with
  | nil => exact Or.inl fun p hp => nomatch hp
  | cons first rest ih =>
    -- The first act that does not leave the result open is the one that releases; what follows finds it closed.
    rcases first.open_or_releases isOpen with still | releases
    · rcases ih still.isClosed with all | ⟨before, p, after, rfl, opened, releases, idle⟩
      · exact Or.inl (List.forall_mem_cons.mpr ⟨still, all⟩)
      · exact Or.inr ⟨_ :: before, p, after, rfl, List.forall_mem_cons.mpr ⟨still, opened⟩, releases, idle⟩
    · exact Or.inr ⟨[], _, _, rfl, fun _ => (nomatch ·), releases, rest.idle releases.isClosed⟩

theorem Life.acts_eq {acts : List Act} {passages : List (Passage ρ)} (life : Life acts r passages) :
    passages.map Passage.act = acts := by
  induction life with
  | nil => rfl
  | cons first rest ih => exact congrArg (List.cons _) ih

end

/-! ### Watching changes nothing -/

section
variable {r s : QueryResult schema (Watched γ)}

/-- The result without the watch. -/
def bare (r : QueryResult schema (Watched γ)) : QueryResult schema γ := ⟨r.cursor.inner, r.isClosed⟩

/-- The cursor is closed where the result is. -/
def IsSound (r : QueryResult schema (Watched γ)) : Prop := r.cursor.isClosed = r.isClosed

theorem close_bare (sound : r.IsSound) : r.bare.close = r.close.bare ∧ r.close.IsSound := by
  cases closed : r.isClosed with
  | true =>
    rw [close_of_closed (r := r) closed, close_of_closed (r := r.bare) closed]
    exact ⟨rfl, sound⟩
  | false =>
    rw [close_of_open (r := r) closed, close_of_open (r := r.bare) closed]
    exact ⟨rfl, rfl⟩

theorem next_bare (sound : r.IsSound) : r.bare.next = (r.next.1, r.next.2.bare) ∧ r.next.2.IsSound := by
  cases closed : r.isClosed with
  | true =>
    rw [next_of_closed (r := r) closed, next_of_closed (r := r.bare) closed]
    exact ⟨rfl, sound⟩
  | false =>
    -- The cursor is open with the result, so the watch passes every read on.
    obtain ⟨⟨inner, late, shut, calls⟩, isClosed⟩ := r
    cases closed
    cases sound
    rcases step : RowCursor.advance inner with ⟨answer, c⟩
    have noted := Watched.advance_of (w := ⟨inner, late, false, calls⟩) step
    rcases answer with e | _ | _
    all_goals
      simp only [bare, next, step, noted]
      exact ⟨rfl, rfl⟩

theorem Pull.run_bare (sound : r.IsSound) (pull : Pull) :
    pull.run r.bare = ((pull.run r).1, (pull.run r).2.bare) ∧ (pull.run r).2.IsSound := by
  obtain ⟨step, behind⟩ := next_bare sound
  cases pull with
  | next =>
    rw [run, step]
    exact ⟨rfl, behind⟩
  | step =>
    simp only [run, QueryResult.step, step]
    generalize r.next = outcome at behind ⊢
    rcases outcome with ⟨_ | _ | _, s⟩ <;> exact ⟨rfl, behind⟩

theorem Drains.bare {rows : Except Error (List ρ)} (h : Drains r rows s) (sound : r.IsSound) :
    Drains r.bare rows s.bare ∧ s.IsSound := by
  induction h with
  | stopped h =>
    obtain ⟨step, behind⟩ := next_bare sound
    rw [h] at step behind
    exact ⟨.stopped step, behind⟩
  | failed h =>
    obtain ⟨step, behind⟩ := next_bare sound
    rw [h] at step behind
    exact ⟨.failed step, behind⟩
  | more h _ ih =>
    obtain ⟨step, behind⟩ := next_bare sound
    rw [h] at step behind
    obtain ⟨rest, last⟩ := ih behind
    exact ⟨.more step rest, last⟩

theorem Act.Does.bare {act : Act} {answer : Answer ρ} (h : act.Does r answer s) (sound : r.IsSound) :
    act.Does r.bare answer s.bare ∧ s.IsSound := by
  cases h with
  | pull pull =>
    obtain ⟨run, behind⟩ := pull.run_bare sound
    have does := Does.pull pull r.bare
    rw [run] at does
    exact ⟨does, behind⟩
  | close =>
    obtain ⟨closed, behind⟩ := close_bare sound
    exact ⟨closed ▸ .close r.bare, behind⟩
  | first =>
    obtain ⟨step, behind⟩ := next_bare sound
    obtain ⟨closed, last⟩ := close_bare behind
    have does := Does.first r.bare
    rw [QueryResult.first, step, closed] at does
    exact ⟨does, last⟩
  | collect h =>
    obtain ⟨drains, behind⟩ := h.bare sound
    exact ⟨.collect drains, behind⟩
  | drop =>
    obtain ⟨closed, behind⟩ := close_bare sound
    exact ⟨closed ▸ .drop r.bare, behind⟩

/-- A watched result answers as it does without the watch, and so does not read a cursor that is closed. -/
theorem Life.answered {acts : List Act} {passages : List (Passage ρ)} (life : Life acts r passages)
    (sound : r.IsSound) : Answered acts r.bare (passages.map Passage.answer) := by
  induction life with
  | nil r => exact .nil r.bare
  | cons first rest ih =>
    obtain ⟨does, behind⟩ := first.bare sound
    exact .cons does (ih behind)

end

/-! ### Release -/

theorem Act.exists_does (act : Act) (r : QueryResult schema γ) (ends : act = .collect → ∃ rows s, Drains r rows s) :
    ∃ answer s, act.Does r answer s := by
  cases act with
  | pull pull => exact ⟨_, _, .pull pull r⟩
  | close => exact ⟨_, _, .close r⟩
  | first => exact ⟨_, _, .first r⟩
  | collect =>
    obtain ⟨rows, s, drains⟩ := ends rfl
    exact ⟨_, _, .collect drains⟩
  | drop => exact ⟨_, _, .drop r⟩

/-- Acts can be done one after the other, where walks come to an end. -/
theorem exists_life {acts : List Act}
    (ends : .collect ∈ acts → ∀ r : QueryResult schema (Watched γ), ∃ rows s, Drains r rows s)
    (r : QueryResult schema (Watched γ)) : ∃ passages, Life acts r passages := by
  induction acts generalizing r with
  | nil => exact ⟨[], .nil r⟩
  | cons act acts ih =>
    obtain ⟨answer, s, first⟩ := act.exists_does r.fresh fun h => ends (h ▸ List.mem_cons_self) r.fresh
    obtain ⟨passages, rest⟩ := ih (fun h => ends (List.mem_cons_of_mem _ h)) s
    exact ⟨_, .cons first rest⟩

def watched (schema : Schema κ ρ) (c : γ) (late : Nat → RootType → Except Error Value) :
    QueryResult schema (Watched γ) :=
  { cursor := { inner := c, late := late } }

/-- Whatever is done with a result until it is dropped, its cursor is closed once, and is neither advanced nor read after
    that. Only a walk over rows without end can keep it from being dropped. -/
theorem released_once (schema : Schema κ ρ) (c : γ) (late : Nat → RootType → Except Error Value) (acts : List Act) :
    (∀ passages, Life (acts ++ [.drop]) (watched schema c late) passages →
        ReleasedOnce passages ∧
          Answered (acts ++ [.drop]) ({ cursor := c } : QueryResult schema γ) (passages.map Passage.answer)) ∧
      ((.collect ∈ acts → ∀ r : QueryResult schema (Watched γ), ∃ rows s, Drains r rows s) →
        ∃ passages, Life (acts ++ [.drop]) (watched schema c late) passages) := by
  constructor
  · intro passages life
    refine ⟨?_, life.answered rfl⟩
    rcases life.open_or_released rfl with opened | released
    · -- A drop leaves no result open.
      have dropped : .drop ∈ passages.map Passage.act := by simp [life.acts_eq]
      obtain ⟨p, hp, act⟩ := List.mem_map.mp dropped
      have kept := (opened p hp).act
      rw [act] at kept
      cases kept
    · exact released
  · intro ends
    exact exists_life (fun h => ends (by simpa using h)) _

/-- A row that lacks its cells is collected, with a close behind the failure. -/
theorem short_released_once :
    ∃ passages,
      Life [.pull .step, .collect, .close, .drop]
        (watched books (BufferedCursor.ofRows [[], []]) fun place _ => .error (.missingColumn place)) passages ∧
        ReleasedOnce passages ∧
          Answered [.pull .step, .collect, .close, .drop] (ofRows books [[], []]) (passages.map Passage.answer) := by
  obtain ⟨released, exists_life⟩ := released_once books (BufferedCursor.ofRows [[], []])
    (fun place _ => .error (.missingColumn place)) [.pull .step, .collect, .close]
  obtain ⟨passages, life⟩ := exists_life fun _ => exists_drains
  exact ⟨passages, life, released passages life⟩

end QueryResult

end TypedTables
