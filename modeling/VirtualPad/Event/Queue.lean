/-!
# Queues

Items in the order in which they were added. Items are added at the back and dropped from the front;
both, and the count, take constant time on average. `toList` is the view in which everything else is
said.
-/

namespace VirtualPad

/-- A first-in first-out queue: the oldest items in order, then the newest in reverse. -/
structure Queue (α : Type) where
  front : List α
  back : List α
  size : Nat
  size_eq : size = front.length + back.length := by rfl

namespace Queue

variable {α : Type}

def empty : Queue α where
  front := []
  back := []
  size := 0

/-- The items, oldest first. -/
def toList (q : Queue α) : List α := q.front ++ q.back.reverse

def push (q : Queue α) (a : α) : Queue α where
  front := q.front
  back := a :: q.back
  size := q.size + 1
  size_eq := by
    simp only [q.size_eq, List.length_cons]
    omega

/-- Drop some of the oldest items, or all of them if there are no more. -/
def drop (q : Queue α) (n : Nat) : Queue α :=
  if h : n ≤ q.front.length then
    { front := q.front.drop n
      back := q.back
      size := q.size - n
      size_eq := by
        simp only [q.size_eq, List.length_drop]
        omega }
  else
    { front := q.back.reverse.drop (n - q.front.length)
      back := []
      size := q.size - n
      size_eq := by
        simp only [q.size_eq, List.length_drop, List.length_reverse, List.length_nil]
        omega }

/-- The item with some number of older ones before it. -/
def get? (q : Queue α) (i : Nat) : Option α := q.toList[i]?

theorem size_eq_length (q : Queue α) : q.size = q.toList.length := by
  simp [toList, q.size_eq]

@[simp] theorem size_push (q : Queue α) (a : α) : (q.push a).size = q.size + 1 := rfl

@[simp] theorem size_drop (q : Queue α) (n : Nat) : (q.drop n).size = q.size - n := by
  unfold drop
  split <;> rfl

@[simp] theorem toList_empty : (empty : Queue α).toList = [] := rfl

@[simp] theorem toList_push (q : Queue α) (a : α) : (q.push a).toList = q.toList ++ [a] := by
  simp [push, toList]

@[simp] theorem toList_drop (q : Queue α) (n : Nat) : (q.drop n).toList = q.toList.drop n := by
  unfold drop toList
  split
  · rename_i h
    simp only [List.drop_append_of_le_length h]
  · rename_i h
    simp only [List.reverse_nil, List.append_nil, List.drop_append]
    rw [List.drop_eq_nil_of_le (Nat.le_of_not_le h), List.nil_append]

end Queue

end VirtualPad
