import Mathlib.Algebra.Order.Ring.Nat
import Mathlib.Tactic.Ring
import TrtLlm.Lib.Segments

/-! # Heads shared by tensor-parallel ranks

Rank `t` of `T` holds the heads of a layer from `Shares.first T H t` on; with more ranks than heads
several ranks hold the same one. Executors with groups of different sizes exchange heads between a
rank and the ranks of its domain.
-/

namespace Shares

variable {own peer factor idx : Nat}

theorem count_mul (ownPos : 0 < own) (factorPos : 0 < factor) :
    count own (own * factor) = factor := by
  rw [count, if_pos (Nat.le_mul_of_pos_right own factorPos), Nat.mul_div_cancel_left _ ownPos]

theorem first_mul (ownPos : 0 < own) (factorPos : 0 < factor) :
    first own (own * factor) idx = idx * factor := by
  rw [first, if_pos (Nat.le_mul_of_pos_right own factorPos), Nat.mul_div_cancel_left _ ownPos]

theorem count_of_mul (peerPos : 0 < peer) (factorPos : 0 < factor) :
    count (peer * factor) peer = 1 := by
  unfold count
  split
  · rename_i few
    have one : factor = 1 := by
      have few : peer * factor ≤ peer * 1 := by rwa [Nat.mul_one]
      have := Nat.le_of_mul_le_mul_left few peerPos
      omega
    rw [one, Nat.mul_one, Nat.div_self peerPos]
  · rfl

theorem first_of_mul (peerPos : 0 < peer) (factorPos : 0 < factor) :
    first (peer * factor) peer idx = idx / factor := by
  unfold first
  split
  · rename_i few
    have one : factor = 1 := by
      have few : peer * factor ≤ peer * 1 := by rwa [Nat.mul_one]
      have := Nat.le_of_mul_le_mul_left few peerPos
      omega
    rw [one, Nat.mul_one, Nat.div_self peerPos, Nat.mul_one, Nat.div_one]
  · rw [Nat.mul_div_cancel_left _ peerPos]

end Shares

namespace TrtLlm

open Shares

/-- The factor by which the peer's ranks hold more heads in total than the own ones. -/
def dupFactor (peerHeads ownHeads : Nat) : Nat :=
  if peerHeads > ownHeads then peerHeads / ownHeads else 1

variable {factor peerHeads ownHeads : Nat}

theorem dupFactor_mul {heads : Nat} (headsPos : 0 < heads) (factorPos : 0 < factor) :
    dupFactor (heads * factor) heads = factor := by
  unfold dupFactor
  split
  · rw [Nat.mul_div_cancel_left _ headsPos]
  · rename_i few
    have few : heads * factor ≤ heads * 1 := by rw [Nat.mul_one]; exact Nat.not_lt.mp few
    have := Nat.le_of_mul_le_mul_left few headsPos
    omega

theorem dupFactor_of_le (few : peerHeads ≤ ownHeads) :
    dupFactor peerHeads ownHeads = 1 :=
  if_neg (Nat.not_lt.mpr few)

theorem dupFactor_pos (ownPos : 0 < ownHeads) :
    0 < dupFactor peerHeads ownHeads := by
  unfold dupFactor
  split
  · rename_i more
    exact Nat.div_pos (Nat.le_of_lt more) ownPos
  · exact Nat.one_pos

/-- One of the two numbers divides the other one. -/
def Divides (first second : Nat) : Prop :=
  (∃ factor, 0 < factor ∧ second = first * factor) ∨
    ∃ factor, 0 < factor ∧ first = second * factor

/-- What a sending rank with `nc` heads from `firstC` on and a receiving rank with `ng` heads from
`firstG` on exchange. The receiver is at index `ic` of the `dc` ranks in the sender's domain, of
which `sendFactor` hold the same heads; the sender at index `ig` of `dg`, of which `recvFactor` do.
-/
structure HeadsAgree (nc ng dc dg sendFactor recvFactor tc ic ig firstC firstG : Nat) : Prop where
  recvFactor_dvd : recvFactor ∣ dg
  /-- The receiver's heads are divided between the groups of ranks with the same heads. -/
  groups_dvd : dg / recvFactor ∣ ng
  /-- Both sides exchange the same number of heads at a time. -/
  width : nc / (dc / sendFactor) = ng / (dg / recvFactor)
  width_pos : 0 < ng / (dg / recvFactor)
  /-- The ranks with the same heads are told apart by the rank as by its index. -/
  residue : tc % recvFactor = ig % recvFactor
  /-- A head of the receiver is at its place in the buffer a head of the sender. -/
  heads : ∀ j < ng, j / (ng / (dg / recvFactor)) = ig / recvFactor →
    ic / sendFactor * (ng / (dg / recvFactor)) + j % (ng / (dg / recvFactor)) < nc ∧
      firstC + (ic / sendFactor * (ng / (dg / recvFactor)) + j % (ng / (dg / recvFactor))) =
        firstG + j

section Cases

variable {tc ic ig m a b : Nat} {tg : Nat}

/-- Receiving ranks that divide the heads of a sending rank. -/
theorem headsAgree_split (mPos : 0 < m) (aPos : 0 < a) (bound : ic < m) :
    HeadsAgree (m * a) a m 1 1 1 tc ic 0 (tc * (m * a)) ((tc * m + ic) * a) := by
  refine ⟨Nat.dvd_refl _, Nat.one_dvd _, ?_, ?_, by rw [Nat.mod_one, Nat.mod_one], ?_⟩
  · rw [Nat.div_one, Nat.div_one, Nat.mul_div_cancel_left _ mPos]
  · simpa using aPos
  · intro j jBound _
    simp only [Nat.div_one, Nat.mod_eq_of_lt jBound]
    refine ⟨?_, by ring⟩
    calc ic * a + j < (ic + 1) * a := by rw [Nat.succ_mul]; omega
      _ ≤ m * a := Nat.mul_le_mul_right a bound

/-- More receiving ranks than heads of a sending rank: each head goes to several ones. -/
theorem headsAgree_spread (aPos : 0 < a) (bPos : 0 < b) (bound : ic < a * b) :
    HeadsAgree a 1 (a * b) 1 b 1 tc ic 0 (tc * a) ((tc * (a * b) + ic) / b) := by
  refine ⟨Nat.dvd_refl _, Nat.dvd_refl _, ?_, by decide, by rw [Nat.mod_one, Nat.mod_one], ?_⟩
  · rw [Nat.mul_div_cancel _ bPos, Nat.div_self aPos]
  · intro j jBound _
    have zero : j = 0 := by omega
    subst zero
    simp only [Nat.div_one, Nat.mod_one, Nat.mul_one, Nat.add_zero]
    refine ⟨(Nat.div_lt_iff_lt_mul bPos).mpr bound, ?_⟩
    rw [← Nat.mul_assoc, Nat.mul_comm _ b, Nat.mul_add_div bPos]

/-- Ranks on both sides that share a single head, more of them on the receiving side. -/
theorem headsAgree_fan (mPos : 0 < m) (bound : ic < m) :
    HeadsAgree 1 1 m 1 m 1 tc ic 0 (tc / a) ((tc * m + ic) / (a * m)) := by
  refine ⟨Nat.dvd_refl _, Nat.dvd_refl _, ?_, by decide, by rw [Nat.mod_one, Nat.mod_one], ?_⟩
  · rw [Nat.div_self mPos]
  · intro j jBound _
    have zero : j = 0 := by omega
    subst zero
    simp only [Nat.div_one, Nat.mod_one, Nat.mul_one, Nat.add_zero, Nat.div_eq_of_lt bound]
    refine ⟨by decide, ?_⟩
    rw [Nat.mul_comm a m, ← Nat.div_div_eq_div_mul, Nat.mul_comm tc m, Nat.mul_add_div mPos,
      Nat.div_eq_of_lt bound, Nat.add_zero]

/-- A receiving rank that collects the heads of several sending ranks. -/
theorem headsAgree_collect (mPos : 0 < m) (aPos : 0 < a) :
    HeadsAgree a (m * a) 1 m 1 1 (tg * m + ig) 0 ig ((tg * m + ig) * a) (tg * (m * a)) := by
  refine ⟨Nat.one_dvd _, (Nat.div_one m).symm ▸ Nat.dvd_mul_right _ _, ?_, ?_,
    by rw [Nat.mod_one, Nat.mod_one], ?_⟩
  · rw [Nat.div_one, Nat.div_one, Nat.mul_div_cancel_left _ mPos]
  · rw [Nat.div_one, Nat.mul_div_cancel_left _ mPos]
    exact aPos
  · intro j jBound group
    simp only [Nat.div_one, Nat.mul_div_cancel_left _ mPos] at group
    simp only [Nat.div_one, Nat.mul_div_cancel_left _ mPos, Nat.zero_mul, Nat.zero_add]
    refine ⟨Nat.mod_lt _ aPos, ?_⟩
    calc (tg * m + ig) * a + j % a = tg * (m * a) + (a * (j / a) + j % a) := by rw [group]; ring
      _ = tg * (m * a) + j := by rw [Nat.div_add_mod]

/-- More sending ranks than heads: a head of the receiver comes from one of several. -/
theorem headsAgree_select (aPos : 0 < a) (bPos : 0 < b) :
    HeadsAgree 1 a 1 (a * b) 1 b (tg * (a * b) + ig) 0 ig ((tg * (a * b) + ig) / b) (tg * a) := by
  have width : a / (a * b / b) = 1 := by rw [Nat.mul_div_cancel _ bPos, Nat.div_self aPos]
  refine ⟨Nat.dvd_mul_left _ _, ?_, ?_, ?_, ?_, ?_⟩
  · rw [Nat.mul_div_cancel _ bPos]
  · rw [width]
  · rw [width]
    decide
  · rw [← Nat.mul_assoc, Nat.mul_comm _ b, Nat.mul_add_mod]
  · intro j jBound group
    rw [width, Nat.div_one] at group
    rw [width, Nat.mod_one, group, ← Nat.mul_assoc, Nat.mul_comm _ b, Nat.mul_add_div bPos]
    simp

/-- Ranks on both sides that share a single head, more of them on the sending side. -/
theorem headsAgree_fold (mPos : 0 < m) (bound : ig < m) :
    HeadsAgree 1 1 1 m 1 m (tg * m + ig) 0 ig ((tg * m + ig) / (a * m)) (tg / a) := by
  have width : 1 / (m / m) = 1 := by rw [Nat.div_self mPos]
  refine ⟨Nat.dvd_refl _, ?_, ?_, ?_, ?_, ?_⟩
  · rw [Nat.div_self mPos]
  · rw [width]
  · rw [width]
    decide
  · rw [Nat.mul_comm, Nat.mul_add_mod]
  · intro j jBound _
    have zero : j = 0 := by omega
    subst zero
    rw [Nat.mul_comm a m, ← Nat.div_div_eq_div_mul, Nat.mul_comm tg m, Nat.mul_add_div mPos,
      Nat.div_eq_of_lt bound, Nat.add_zero, width]
    simp

end Cases

/-- The heads that the ranks of a group hold in total, with their duplicates. -/
def totalHeads (rankNum headNum : Nat) : Nat :=
  count rankNum headNum * rankNum

theorem totalHeads_mul {rankNum : Nat} (rankPos : 0 < rankNum) (factorPos : 0 < factor) :
    totalHeads rankNum (rankNum * factor) = rankNum * factor := by
  rw [totalHeads, count_mul rankPos factorPos, Nat.mul_comm]

theorem totalHeads_of_mul {headNum : Nat} (headPos : 0 < headNum) (factorPos : 0 < factor) :
    totalHeads (headNum * factor) headNum = headNum * factor := by
  rw [totalHeads, count_of_mul headPos factorPos, Nat.one_mul]

/-- Two ranks whose heads meet exchange them without a gap, whatever the sizes of the
two groups. -/
theorem headsAgree {Tc Tg H tc tg ic ig : Nat} (TcPos : 0 < Tc) (TgPos : 0 < Tg) (HPos : 0 < H)
    (groups : Divides Tc Tg) (sendHeads : Divides Tc H) (recvHeads : Divides Tg H)
    (icBound : ic < count Tc Tg) (igBound : ig < count Tg Tc)
    (recvRank : tg = first Tc Tg tc + ic) (sendRank : tc = first Tg Tc tg + ig) :
    HeadsAgree (count Tc H) (count Tg H) (count Tc Tg) (count Tg Tc)
      (dupFactor (totalHeads Tg H) (totalHeads Tc H))
      (dupFactor (totalHeads Tc H) (totalHeads Tg H)) tc ic ig (first Tc H tc) (first Tg H tg) := by
  obtain ⟨m, mPos, rfl⟩ | ⟨m, mPos, rfl⟩ := groups
  · -- The receiving group is at least as large as the sending one.
    rw [count_mul TcPos mPos] at icBound ⊢
    rw [count_of_mul TcPos mPos] at igBound ⊢
    rw [first_mul TcPos mPos] at recvRank
    have zero : ig = 0 := by omega
    subst zero recvRank
    obtain ⟨a, aPos, rfl⟩ | ⟨b, bPos, more⟩ := recvHeads
    · rw [count_mul TgPos aPos, first_mul TgPos aPos, totalHeads_mul TgPos aPos, Nat.mul_assoc,
        totalHeads_mul TcPos (Nat.mul_pos mPos aPos), count_mul TcPos (Nat.mul_pos mPos aPos),
        first_mul TcPos (Nat.mul_pos mPos aPos), dupFactor_of_le (Nat.le_refl _)]
      exact headsAgree_split mPos aPos icBound
    · obtain ⟨a, aPos, rfl⟩ | ⟨a, aPos, rfl⟩ := sendHeads
      · have product : m = a * b := by
          apply Nat.eq_of_mul_eq_mul_left TcPos
          rw [more, Nat.mul_assoc]
        rw [count_mul TcPos aPos, first_mul TcPos aPos, totalHeads_mul TcPos aPos, more,
          count_of_mul HPos bPos, first_of_mul HPos bPos, totalHeads_of_mul HPos bPos,
          dupFactor_mul HPos bPos, dupFactor_of_le (Nat.le_mul_of_pos_right _ bPos), product]
        exact headsAgree_spread aPos bPos (product ▸ icBound)
      · rw [Nat.mul_assoc, count_of_mul HPos aPos, first_of_mul HPos aPos,
          totalHeads_of_mul HPos aPos, count_of_mul HPos (Nat.mul_pos aPos mPos),
          first_of_mul HPos (Nat.mul_pos aPos mPos), totalHeads_of_mul HPos (Nat.mul_pos aPos mPos),
          ← Nat.mul_assoc, dupFactor_mul TcPos mPos,
          dupFactor_of_le (Nat.le_mul_of_pos_right _ mPos)]
        exact headsAgree_fan mPos icBound
  · -- The sending group is at least as large as the receiving one.
    rw [count_mul TgPos mPos] at igBound ⊢
    rw [count_of_mul TgPos mPos] at icBound ⊢
    rw [first_mul TgPos mPos] at sendRank
    have zero : ic = 0 := by omega
    subst zero sendRank
    obtain ⟨a, aPos, rfl⟩ | ⟨b, bPos, more⟩ := sendHeads
    · rw [count_mul TcPos aPos, first_mul TcPos aPos, totalHeads_mul TcPos aPos, Nat.mul_assoc,
        totalHeads_mul TgPos (Nat.mul_pos mPos aPos), count_mul TgPos (Nat.mul_pos mPos aPos),
        first_mul TgPos (Nat.mul_pos mPos aPos), dupFactor_of_le (Nat.le_refl _)]
      exact headsAgree_collect mPos aPos
    · obtain ⟨a, aPos, rfl⟩ | ⟨a, aPos, rfl⟩ := recvHeads
      · have product : m = a * b := by
          apply Nat.eq_of_mul_eq_mul_left TgPos
          rw [more, Nat.mul_assoc]
        rw [count_mul TgPos aPos, first_mul TgPos aPos, totalHeads_mul TgPos aPos, more,
          count_of_mul HPos bPos, first_of_mul HPos bPos, totalHeads_of_mul HPos bPos,
          dupFactor_mul HPos bPos, dupFactor_of_le (Nat.le_mul_of_pos_right _ bPos), product]
        exact headsAgree_select aPos bPos
      · rw [Nat.mul_assoc, count_of_mul HPos aPos, first_of_mul HPos aPos,
          totalHeads_of_mul HPos aPos, count_of_mul HPos (Nat.mul_pos aPos mPos),
          first_of_mul HPos (Nat.mul_pos aPos mPos), totalHeads_of_mul HPos (Nat.mul_pos aPos mPos),
          ← Nat.mul_assoc, dupFactor_mul TgPos mPos,
          dupFactor_of_le (Nat.le_mul_of_pos_right _ mPos)]
        exact headsAgree_fold mPos igBound

end TrtLlm
