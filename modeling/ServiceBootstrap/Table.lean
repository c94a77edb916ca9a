/-!
Tables that hold a value for every key.
-/

namespace ServiceBootstrap

def Table (K V : Type) : Type := K → V

namespace Table

variable {K V : Type}

def const (v : V) : Table K V := fun _ => v

def get (t : Table K V) (k : K) : V := t k

def set [DecidableEq K] (t : Table K V) (k : K) (v : V) : Table K V :=
  fun other => if other = k then v else t other

@[ext] theorem ext {t u : Table K V} (h : ∀ k, t.get k = u.get k) : t = u := funext h

@[simp] theorem get_const (v : V) (k : K) : (const v).get k = v := rfl

theorem get_set [DecidableEq K] (t : Table K V) (k other : K) (v : V) :
    (t.set k v).get other = if other = k then v else t.get other := rfl

@[simp] theorem get_set_self [DecidableEq K] (t : Table K V) (k : K) (v : V) :
    (t.set k v).get k = v := if_pos rfl

theorem get_set_of_ne [DecidableEq K] (t : Table K V) {k other : K} (h : other ≠ k) (v : V) :
    (t.set k v).get other = t.get other := if_neg h

@[simp] theorem set_set [DecidableEq K] (t : Table K V) (k : K) (v w : V) :
    (t.set k v).set k w = t.set k w := by
  ext other
  simp only [get_set]
  split <;> rfl

theorem set_comm [DecidableEq K] (t : Table K V) {k other : K} (h : other ≠ k) (v w : V) :
    (t.set k v).set other w = (t.set other w).set k v := by
  ext key
  simp only [get_set]
  grind

@[simp] theorem set_get [DecidableEq K] (t : Table K V) (k : K) : t.set k (t.get k) = t := by
  ext other
  rw [get_set]
  split
  · next heq => rw [heq]
  · rfl

end Table

end ServiceBootstrap
