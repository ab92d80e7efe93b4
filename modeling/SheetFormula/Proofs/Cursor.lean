import SheetFormula.Lookahead
/-!
A lookahead buffer over a list is a plain cursor over it that remembers how far the calls have
looked: every call answers what the same call on the cursor answers.
-/

namespace SheetFormula.Lookahead

variable {α β : Type}

theorem pullTo_eq (n : Nat) (queue source : List α) :
    pullTo n queue source =
      ⟨queue ++ source.take (n - queue.length), source.drop (n - queue.length)⟩ := by
  induction source generalizing queue with
  | nil => simp [pullTo]
  | cons x rest ih =>
    simp only [pullTo]
    split
    · rename_i hlt
      obtain ⟨k, hk⟩ : ∃ k, n - queue.length = k + 1 := ⟨n - queue.length - 1, by omega⟩
      have hk' : n - (queue.length + 1) = k := by omega
      simp [ih, hk, hk']
    · rename_i hge
      have hk : n - queue.length = 0 := by omega
      simp [hk]

theorem queue_fill (n : Nat) (b : Lookahead α) :
    (b.fill n).queue = b.queue ++ b.source.take (n - b.queue.length) := by
  simp [fill, pullTo_eq]

theorem source_fill (n : Nat) (b : Lookahead α) :
    (b.fill n).source = b.source.drop (n - b.queue.length) := by
  simp [fill, pullTo_eq]

theorem getElem?_queue_fill {n i : Nat} (b : Lookahead α) (hi : i < n) :
    (b.fill n).queue[i]? = b.toList[i]? := by
  rw [queue_fill, toList]
  by_cases hq : i < b.queue.length
  · simp [List.getElem?_append_left hq]
  · rw [List.getElem?_append_right (by omega), List.getElem?_append_right (by omega),
      List.getElem?_take]
    simp only [ite_eq_left_iff]
    omega

theorem next_snd (b : Lookahead α) :
    b.next.2 = ⟨(b.fill 1).queue.tail, (b.fill 1).source⟩ := by
  unfold next
  dsimp only
  split
  · rename_i hq
    rw [hq, List.tail_nil, ← hq]
  · rename_i x q hq
    rw [hq]
    rfl

theorem iterNext_eq (b : Lookahead (Option β)) : b.iterNext = (b.next.1.join, b.next.2) := by
  unfold iterNext
  split
  · rename_i x b1 hb
    rw [hb]
    rfl
  · rename_i p b1 hp hb
    rw [hb]
    cases p with
    | none => rfl
    | some y =>
      cases y with
      | none => rfl
      | some x => exact absurd rfl (hp x)

structure Cursor where
  pos : Nat
  reach : Nat
  deriving DecidableEq, Repr

namespace Cursor

def start : Cursor :=
  ⟨0, 0⟩

def look (c : Cursor) (d : Nat) : Cursor :=
  { c with reach := max c.reach (c.pos + d) }

def peek (xs : List α) (c : Cursor) : Option α × Cursor :=
  (xs[c.pos]?, c.look 1)

def peekSecond (xs : List α) (c : Cursor) : Option α × Cursor :=
  (xs[c.pos + 1]?, c.look 2)

def next (xs : List α) (c : Cursor) : Option α × Cursor :=
  (xs[c.pos]?, { c.look 1 with pos := if c.pos < xs.length then c.pos + 1 else c.pos })

def iterNext (xs : List (Option β)) (c : Cursor) : Option β × Cursor :=
  ((next xs c).1.join, (next xs c).2)

end Cursor

inductive Call where
  | peek | peekSecond | next | iterNext
  deriving DecidableEq, Repr

def Call.onBuffer : Call → Lookahead (Option β) → Option (Option β) × Lookahead (Option β)
  | .peek, b => b.peek
  | .peekSecond, b => b.peekSecond
  | .next, b => b.next
  | .iterNext, b => (b.iterNext.1.map some, b.iterNext.2)

def Call.onCursor (xs : List (Option β)) : Call → Cursor → Option (Option β) × Cursor
  | .peek, c => c.peek xs
  | .peekSecond, c => c.peekSecond xs
  | .next, c => c.next xs
  | .iterNext, c => ((c.iterNext xs).1.map some, (c.iterNext xs).2)

def run (b : Lookahead (Option β)) : List Call → List (Option (Option β)) × Lookahead (Option β)
  | [] => ([], b)
  | k :: ks =>
    let r := k.onBuffer b
    let rest := run r.2 ks
    (r.1 :: rest.1, rest.2)

def Cursor.run (xs : List (Option β)) (c : Cursor) :
    List Call → List (Option (Option β)) × Cursor
  | [] => ([], c)
  | k :: ks =>
    let r := k.onCursor xs c
    let rest := Cursor.run xs r.2 ks
    (r.1 :: rest.1, rest.2)

/-- The buffer `b` holds what is left of `xs` after the cursor `c`. -/
structure Tracks (xs : List α) (b : Lookahead α) (c : Cursor) : Prop where
  queue_le : b.queue.length ≤ 2
  toList_eq : b.toList = xs.drop c.pos
  pulled_eq : xs.length - b.source.length = min xs.length c.reach

section Tracks

variable {xs : List α} {b : Lookahead α} {c : Cursor}

theorem Tracks.start (xs : List α) : Tracks xs (ofList xs) Cursor.start :=
  ⟨by simp [ofList], by simp [ofList, toList, Cursor.start], by simp [ofList, Cursor.start]⟩

theorem Tracks.fill {n : Nat} (h : Tracks xs b c) (hn : n ≤ 2) :
    Tracks xs (b.fill n) (c.look n) := by
  have hlen : b.queue.length + b.source.length = xs.length - c.pos := by
    have := congrArg List.length h.toList_eq
    simpa [toList] using this
  have hq := h.queue_le
  have hp := h.pulled_eq
  refine ⟨?_, by rw [toList_fill, h.toList_eq]; rfl, ?_⟩
  · simp only [queue_fill, List.length_append, List.length_take]
    omega
  · simp only [source_fill, List.length_drop, Cursor.look]
    omega

theorem Tracks.peek (h : Tracks xs b c) :
    b.peek.1 = (c.peek xs).1 ∧ Tracks xs b.peek.2 (c.peek xs).2 := by
  refine ⟨?_, h.fill (by omega)⟩
  simp only [Lookahead.peek, Cursor.peek, List.head?_eq_getElem?,
    getElem?_queue_fill b Nat.one_pos, h.toList_eq, List.getElem?_drop, Nat.add_zero]

theorem Tracks.peekSecond (h : Tracks xs b c) :
    b.peekSecond.1 = (c.peekSecond xs).1 ∧ Tracks xs b.peekSecond.2 (c.peekSecond xs).2 := by
  refine ⟨?_, h.fill (Nat.le_refl 2)⟩
  simp only [Lookahead.peekSecond, Cursor.peekSecond,
    getElem?_queue_fill b (Nat.one_lt_two), h.toList_eq, List.getElem?_drop]

theorem Tracks.next (h : Tracks xs b c) :
    b.next.1 = (c.next xs).1 ∧ Tracks xs b.next.2 (c.next xs).2 := by
  have hf := h.fill (n := 1) (by omega)
  obtain ⟨hfirst, hrest⟩ := next_toList b
  refine ⟨by simp [hfirst, h.toList_eq, Cursor.next], ⟨?_, ?_, ?_⟩⟩
  · rw [next_snd, List.length_tail]
    have := hf.queue_le
    omega
  · rw [hrest, h.toList_eq, List.tail_drop]
    simp only [Cursor.next]
    split
    · rfl
    · rw [List.drop_eq_nil_of_le (by omega), List.drop_eq_nil_of_le (by omega)]
  · rw [next_snd]
    exact hf.pulled_eq

theorem Tracks.iterNext {xs : List (Option β)} {b : Lookahead (Option β)} (h : Tracks xs b c) :
    b.iterNext.1 = (c.iterNext xs).1 ∧ Tracks xs b.iterNext.2 (c.iterNext xs).2 := by
  obtain ⟨h1, h2⟩ := h.next
  rw [iterNext_eq]
  exact ⟨by rw [h1]; rfl, h2⟩

theorem Tracks.call {xs : List (Option β)} {b : Lookahead (Option β)} (h : Tracks xs b c)
    (k : Call) :
    (k.onBuffer b).1 = (k.onCursor xs c).1 ∧ Tracks xs (k.onBuffer b).2 (k.onCursor xs c).2 := by
  cases k with
  | peek => exact h.peek
  | peekSecond => exact h.peekSecond
  | next => exact h.next
  | iterNext =>
    obtain ⟨h1, h2⟩ := h.iterNext
    exact ⟨by simp only [Call.onBuffer, Call.onCursor, h1], h2⟩

theorem Tracks.run {xs : List (Option β)} {b : Lookahead (Option β)} (h : Tracks xs b c)
    (ks : List Call) :
    (b.run ks).1 = (c.run xs ks).1 ∧ Tracks xs (b.run ks).2 (c.run xs ks).2 := by
  induction ks generalizing b c with
  | nil => exact ⟨rfl, h⟩
  | cons k ks ih =>
    obtain ⟨hk, hstep⟩ := h.call k
    obtain ⟨hks, hrest⟩ := ih hstep
    refine ⟨?_, hrest⟩
    simp only [Lookahead.run, Cursor.run, hk, hks]

end Tracks

theorem run_ofList_eq_cursor (xs : List (Option β)) (ks : List Call) :
    ((ofList xs).run ks).1 = (Cursor.start.run xs ks).1 ∧
    Tracks xs ((ofList xs).run ks).2 (Cursor.start.run xs ks).2 :=
  (Tracks.start xs).run ks

end SheetFormula.Lookahead
