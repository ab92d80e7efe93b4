/-!
A lookahead buffer over a list of items: up to two items can be looked at before they are
taken. Iterating over a buffer of optional items stops at the first missing item.
-/

namespace SheetFormula

structure Lookahead (α : Type) where
  queue : List α
  source : List α
  deriving DecidableEq, Repr

namespace Lookahead

variable {α β : Type}

def ofList (xs : List α) : Lookahead α :=
  ⟨[], xs⟩

def toList (b : Lookahead α) : List α :=
  b.queue ++ b.source

def pullTo (n : Nat) (queue : List α) : List α → Lookahead α
  | [] => ⟨queue, []⟩
  | x :: rest => if queue.length < n then pullTo n (queue ++ [x]) rest else ⟨queue, x :: rest⟩

def fill (n : Nat) (b : Lookahead α) : Lookahead α :=
  pullTo n b.queue b.source

def peek (b : Lookahead α) : Option α × Lookahead α :=
  let b := b.fill 1
  (b.queue.head?, b)

def peekSecond (b : Lookahead α) : Option α × Lookahead α :=
  let b := b.fill 2
  (b.queue[1]?, b)

def next (b : Lookahead α) : Option α × Lookahead α :=
  let b := b.fill 1
  match b.queue with
  | [] => (none, b)
  | x :: q => (some x, ⟨q, b.source⟩)

theorem toList_pullTo (n : Nat) (queue source : List α) :
    (pullTo n queue source).toList = queue ++ source := by
  induction source generalizing queue with
  | nil => rfl
  | cons x rest ih =>
    simp only [pullTo]
    split
    · rw [ih]; simp
    · rfl

@[simp]
theorem toList_fill (n : Nat) (b : Lookahead α) : (b.fill n).toList = b.toList :=
  toList_pullTo n b.queue b.source

theorem queue_prefix_pullTo (n : Nat) (queue source : List α) :
    queue <+: (pullTo n queue source).queue := by
  induction source generalizing queue with
  | nil => exact List.prefix_refl _
  | cons x rest ih =>
    simp only [pullTo]
    split
    · exact (List.prefix_append _ _).trans (ih _)
    · exact List.prefix_refl _

theorem source_pullTo_of_queue_nil {n : Nat} {queue source : List α} (hn : 0 < n)
    (h : (pullTo n queue source).queue = []) : (pullTo n queue source).source = [] := by
  cases source with
  | nil => rfl
  | cons x rest =>
    simp only [pullTo] at h ⊢
    split at h
    · have := (queue_prefix_pullTo n (queue ++ [x]) rest).length_le
      simp [h] at this
    · rename_i hlt
      simp only at h
      simp [h] at hlt
      omega

theorem next_toList (b : Lookahead α) :
    b.next.1 = b.toList.head? ∧ b.next.2.toList = b.toList.tail := by
  have h := toList_fill 1 b
  unfold next
  dsimp only
  split
  · rename_i hq
    simp only [fill] at h hq ⊢
    have hs := source_pullTo_of_queue_nil Nat.one_pos hq
    simp only [toList, hq, hs, List.nil_append] at h ⊢
    simp [← h]
  · rename_i x q hq
    simp only [toList, hq, List.cons_append] at h ⊢
    simp [← h]

def size (b : Lookahead α) : Nat :=
  b.toList.length

theorem size_next_lt {b : Lookahead α} {x : α} (h : b.next.1 = some x) :
    b.next.2.size < b.size := by
  obtain ⟨h1, h2⟩ := next_toList b
  simp only [size, h2]
  rw [h] at h1
  cases hl : b.toList with
  | nil => simp [hl] at h1
  | cons y ys => simp

def iterNext (b : Lookahead (Option β)) : Option β × Lookahead (Option β) :=
  match b.next with
  | (some (some x), b1) => (some x, b1)
  | (_, b1) => (none, b1)

def drain (b : Lookahead (Option β)) : List β × Lookahead (Option β) :=
  match h : b.next with
  | (some (some x), b1) =>
    have : b1.size < b.size :=
      (congrArg (fun p => p.2.size < b.size) h).mp (size_next_lt (congrArg Prod.fst h))
    let r := drain b1
    (x :: r.1, r.2)
  | (_, b1) => ([], b1)
termination_by b.size

end Lookahead

end SheetFormula
