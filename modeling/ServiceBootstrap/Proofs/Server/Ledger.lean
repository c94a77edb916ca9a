import Mathlib.Data.List.Perm.Basic
import Mathlib.Tactic.Lemma
import ServiceBootstrap.Server.Running

/-!
The connections of a server, each by its number.

Connections are numbered in the order in which they are accepted, and a ledger beside the server
says where each of them went: it is in the set of connections, or was taken out of the set when its
handler had finished, or was cut off when the loop ended. Whatever happens, each number stands in
one of the three places and only once, and the server's own counts are the lengths of these lists.
-/

namespace ServiceBootstrap.Server

/-- Where the connections of a server went, by their numbers. -/
structure Ledger where
  /-- How many connections were accepted. -/
  accepted : Nat := 0
  /-- The set of connections, in its order. -/
  members : List Nat := []
  /-- Those that were taken out of the set after their handlers had finished. -/
  reaped : List Nat := []
  /-- Those that were in the set when all of it was cut off. -/
  cutOff : List Nat := []

namespace Ledger

/-- Writes down what a step of the loop does to the connections. -/
def note (l : Ledger) (a : Acceptor) : Acceptor.Step → Ledger
  | .accept =>
    if a.stand = .selecting then
      { l with accepted := l.accepted + 1, members := l.members ++ [l.accepted] }
    else l
  | .reap place =>
    if a.stand = .selecting ∧ a.handlers[place]? = some .finished then
      { l with
        members := l.members.eraseIdx place
        reaped := l.reaped ++ l.members[place]?.toList }
    else l
  | .cutOff => if a.stand = .leaving then { l with members := [], cutOff := l.members } else l
  | .observe | .acceptFails | .resume | .finish _ => l

/-- Each connection is in one place, and is there once. -/
def Once (l : Ledger) : Prop :=
  (l.reaped ++ (l.members ++ l.cutOff)).Perm (List.range l.accepted)

variable {l : Ledger}

lemma Once.accept (h : l.Once) (hcut : l.cutOff = []) :
    { l with accepted := l.accepted + 1, members := l.members ++ [l.accepted] : Ledger }.Once := by
  unfold Once at h ⊢
  rw [hcut, List.append_nil] at h
  dsimp only
  rw [hcut, List.append_nil, ← List.append_assoc, List.range_succ]
  exact h.append_right _

lemma Once.reap (h : l.Once) {place : Nat} (hplace : place < l.members.length) :
    { l with
      members := l.members.eraseIdx place
      reaped := l.reaped ++ l.members[place]?.toList : Ledger }.Once := by
  unfold Once at h ⊢
  have hmembers : (l.members[place] :: l.members.eraseIdx place).Perm l.members :=
    List.getElem_cons_eraseIdx_perm hplace
  dsimp only
  rw [List.getElem?_eq_getElem hplace, Option.toList_some, List.append_assoc,
    ← List.append_assoc [l.members[place]], List.singleton_append]
  exact ((hmembers.append_right _).append_left _).trans h

lemma Once.cut (h : l.Once) (hcut : l.cutOff = []) :
    { l with members := [], cutOff := l.members : Ledger }.Once := by
  unfold Once at h ⊢
  rwa [hcut, List.append_nil] at h

end Ledger

namespace Acceptor

/-- The loop is behind its selection, for good. -/
def HasLeft (a : Acceptor) : Prop := a.stand = .leaving ∨ a.stand = .ended

/-- What stands in the ledger of a loop, by where the loop stands. -/
def Stands (a : Acceptor) (l : Ledger) : Prop :=
  match a.stand with
  | .selecting | .backingOff => a.listening = true ∧ l.cutOff = []
  | .leaving => a.listening = false ∧ l.cutOff = [] ∧ a.aborted = l.members.length
  | .ended => a.listening = false ∧ l.members = [] ∧ a.aborted = l.cutOff.length

/-- A loop and its ledger tell the same. -/
structure Accounted (a : Acceptor) (l : Ledger) : Prop where
  served : a.served = l.accepted
  members : l.members.length = a.handlers.length
  once : l.Once
  stands : a.Stands l

lemma accounted_new : ({} : Acceptor).Accounted {} := ⟨rfl, rfl, .nil, rfl, rfl⟩

variable {a : Acceptor} {l : Ledger} {signal : Signal}

/-- What a loop does that has not left does not show in the ledger's last part. -/
lemma Accounted.listening (h : a.Accounted l) (hleft : ¬ a.HasLeft) :
    a.listening = true ∧ l.cutOff = [] := by
  have hstands := h.stands
  unfold Stands at hstands
  unfold HasLeft at hleft
  split at hstands
  · exact hstands
  · exact hstands
  · next hstand => exact absurd (.inl hstand) hleft
  · next hstand => exact absurd (.inr hstand) hleft

lemma Accounted.not_listening (h : a.Accounted l) (hleft : a.HasLeft) : a.listening = false := by
  have hstands := h.stands
  unfold Stands at hstands
  rcases hleft with hstand | hstand <;> rw [hstand] at hstands <;> exact hstands.1

lemma Accounted.at_end (h : a.Accounted l) (hstand : a.stand = .ended) :
    a.handlers = [] ∧ l.members = [] ∧ a.aborted = l.cutOff.length := by
  have hstands := h.stands
  unfold Stands at hstands
  rw [hstand] at hstands
  obtain ⟨-, hmembers, haborted⟩ := hstands
  refine ⟨List.eq_nil_of_length_eq_zero ?_, hmembers, haborted⟩
  rw [← h.members, hmembers, List.length_nil]

lemma not_hasLeft_of_selecting (h : a.stand = .selecting) : ¬ a.HasLeft := by
  rintro (hstand | hstand) <;> rw [h] at hstand <;> cases hstand

lemma Accounted.step (h : a.Accounted l) (s : Step) :
    (a.step signal s).Accounted (l.note a s) := by
  obtain ⟨hserved, hmembers, honce, hstands⟩ := id h
  cases s with
  | observe =>
    simp only [Acceptor.step, Ledger.note]
    split_ifs with hlooks
    · have hopen := h.listening (not_hasLeft_of_selecting hlooks.1)
      split
      · exact ⟨hserved, hmembers, honce, rfl, hopen.2, hmembers.symm⟩
      · exact ⟨hserved, hmembers, honce, hstands⟩
      · exact h
    · exact h
  | accept =>
    simp only [Acceptor.step, Ledger.note]
    split_ifs with hselecting
    · have hopen := h.listening (not_hasLeft_of_selecting hselecting)
      refine ⟨congrArg (· + 1) hserved, by simp [hmembers], honce.accept hopen.2, ?_⟩
      unfold Stands
      rw [hselecting]
      exact hopen
    · exact h
  | acceptFails =>
    simp only [Acceptor.step, Ledger.note]
    split_ifs with hselecting
    · exact ⟨hserved, hmembers, honce, h.listening (not_hasLeft_of_selecting hselecting)⟩
    · exact h
  | resume =>
    simp only [Acceptor.step, Ledger.note]
    split_ifs with hwaiting
    · refine ⟨hserved, hmembers, honce, h.listening ?_⟩
      rintro (hstand | hstand) <;> rw [hwaiting] at hstand <;> cases hstand
    · exact h
  | finish place =>
    exact ⟨hserved, by simpa [Acceptor.step, Ledger.note] using hmembers, honce, hstands⟩
  | reap place =>
    simp only [Acceptor.step, Ledger.note]
    split_ifs with hready
    · obtain ⟨hselecting, hfinished⟩ := hready
      have hopen := h.listening (not_hasLeft_of_selecting hselecting)
      obtain ⟨hplace, -⟩ := List.getElem?_eq_some_iff.1 hfinished
      have hplace' : place < l.members.length := by rwa [hmembers]
      refine ⟨hserved, ?_, honce.reap hplace', ?_⟩
      · simp only [List.length_eraseIdx, hmembers]
      · unfold Stands
        rw [hselecting]
        exact hopen
    · exact h
  | cutOff =>
    simp only [Acceptor.step, Ledger.note]
    split_ifs with hleaving
    · unfold Stands at hstands
      rw [hleaving] at hstands
      obtain ⟨hclosed, hcut, haborted⟩ := hstands
      exact ⟨hserved, rfl, honce.cut hcut, hclosed, rfl, haborted⟩
    · exact h

/-- No step accepts more than one connection. -/
lemma served_step_le (s : Step) : (a.step signal s).served ≤ a.served + 1 := by
  cases s with
  | observe =>
    simp only [Acceptor.step]
    split
    · split <;> simp [leave]
    · exact Nat.le_succ _
  | accept | acceptFails | resume | reap place | cutOff =>
    simp only [Acceptor.step]
    split_ifs <;> simp
  | finish place => exact Nat.le_succ _

/-! ### Behind the selection -/

/-- Once the loop has left, it never comes back, and nothing is accepted or reaped. -/
lemma HasLeft.step (h : a.HasLeft) (s : Step) :
    (a.step signal s).HasLeft ∧ (l.note a s).accepted = l.accepted ∧
      (l.note a s).reaped = l.reaped := by
  have hselecting : a.stand ≠ .selecting := fun hstand => not_hasLeft_of_selecting hstand h
  have hwaiting : a.stand ≠ .backingOff := by
    rintro hstand
    rcases h with hstand' | hstand' <;> rw [hstand] at hstand' <;> cases hstand'
  cases s with
  | observe => simp [Acceptor.step, Ledger.note, hselecting, h]
  | accept => simp [Acceptor.step, Ledger.note, hselecting, h]
  | acceptFails => simp [Acceptor.step, Ledger.note, hselecting, h]
  | resume => simp [Acceptor.step, Ledger.note, hwaiting, h]
  | finish place => exact ⟨h, rfl, rfl⟩
  | reap place => simp [Acceptor.step, Ledger.note, hselecting, h]
  | cutOff =>
    simp only [Acceptor.step, Ledger.note]
    split_ifs
    · exact ⟨.inr rfl, rfl, rfl⟩
    · exact ⟨h, rfl, rfl⟩

/-- A loop that has ended stays as it is. -/
lemma step_of_ended (hstand : a.stand = .ended) (hhandlers : a.handlers = []) (s : Step) :
    a.step signal s = a := by
  cases s with
  | finish place =>
    simp only [Acceptor.step, hhandlers, List.set_nil]
    rw [← hhandlers]
  | observe => simp [Acceptor.step, hstand]
  | accept => simp [Acceptor.step, hstand]
  | acceptFails => simp [Acceptor.step, hstand]
  | resume => simp [Acceptor.step, hstand]
  | reap place => simp [Acceptor.step, hstand]
  | cutOff => simp [Acceptor.step, hstand]

end Acceptor

end ServiceBootstrap.Server
