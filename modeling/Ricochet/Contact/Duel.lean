import Ricochet.Contact.Basic

/-! Resolution of dueling connections. When both peers dial each other and each adopts one
session before the other arrives, the fallback rule of `shouldReplaceConnection` compares the
two labels, and both ends keep the session dialed by the peer with the smaller label. -/

namespace Ricochet.Contact

/-- The session an endpoint keeps when `incoming` arrives while it holds its current one. -/
def keptSession (c : Contact) (conns : Nat → OpenConnection) (now : Instant) (incoming : Nat) :
    Option Nat :=
  if c.shouldReplaceConnection conns now (conns incoming) then some incoming else c.connection

section Fallback

variable {c : Contact} {conns : Nat → OpenConnection} {now : Instant} {held incoming : Nat}

/-- Two live sessions in opposite directions, the current one at most 30 seconds old: the
fallback order decides. -/
theorem shouldReplaceConnection_fallback (hcur : c.connection = some held)
    (hopen : (conns held).closed = false)
    (hdir : (conns held).client ≠ (conns incoming).client)
    (hage : now.nanos - c.timeConnected ≤ 30 * Ricochet.second) :
    c.shouldReplaceConnection conns now (conns incoming) =
      (decide ((conns incoming).myHostname < (conns incoming).otherHostname) =
        (conns incoming).client) := by
  simp [shouldReplaceConnection, hcur, hopen, hdir, not_lt.mpr hage]

/-- The endpoint keeps the session it dialed exactly when its own label is the smaller one. -/
theorem keptSession_client (hcur : c.connection = some held)
    (hopen : (conns held).closed = false)
    (hdir : (conns held).client ≠ (conns incoming).client)
    (hage : now.nanos - c.timeConnected ≤ 30 * Ricochet.second) :
    ∃ kept, c.keptSession conns now incoming = some kept ∧
      (conns kept).client = decide ((conns incoming).myHostname < (conns incoming).otherHostname) := by
  simp only [keptSession, shouldReplaceConnection_fallback hcur hopen hdir hage, hcur]
  by_cases h : decide ((conns incoming).myHostname < (conns incoming).otherHostname) =
      (conns incoming).client
  · exact ⟨incoming, if_pos h, h.symm⟩
  · refine ⟨held, if_neg h, ?_⟩
    revert h hdir
    cases (conns held).client <;> cases (conns incoming).client <;> simp

end Fallback

/-- Duel convergence: two endpoints, each holding one of the two sessions and receiving the other,
both keep the session dialed by the smaller label, whatever the order of arrival. -/
theorem duel_converges (a b : String) (hab : a ≠ b)
    (cA cB : Contact) (connsA connsB : Nat → OpenConnection) (nowA nowB : Instant)
    (firstA secondA firstB secondB : Nat)
    (hcurA : cA.connection = some firstA) (hcurB : cB.connection = some firstB)
    (hopenA : (connsA firstA).closed = false) (hopenB : (connsB firstB).closed = false)
    (hdirA : (connsA firstA).client ≠ (connsA secondA).client)
    (hdirB : (connsB firstB).client ≠ (connsB secondB).client)
    (hageA : nowA.nanos - cA.timeConnected ≤ 30 * second)
    (hageB : nowB.nanos - cB.timeConnected ≤ 30 * second)
    (hlabelsA : (connsA secondA).myHostname = a ∧ (connsA secondA).otherHostname = b)
    (hlabelsB : (connsB secondB).myHostname = b ∧ (connsB secondB).otherHostname = a) :
    ∃ keptA keptB, cA.keptSession connsA nowA secondA = some keptA ∧
      cB.keptSession connsB nowB secondB = some keptB ∧
      (connsA keptA).client = decide (a < b) ∧ !(connsB keptB).client = decide (a < b) := by
  obtain ⟨keptA, hA, hcA⟩ := keptSession_client hcurA hopenA hdirA hageA
  obtain ⟨keptB, hB, hcB⟩ := keptSession_client hcurB hopenB hdirB hageB
  rw [hlabelsA.1, hlabelsA.2] at hcA
  rw [hlabelsB.1, hlabelsB.2] at hcB
  refine ⟨keptA, keptB, hA, hB, hcA, ?_⟩
  rw [hcB]
  rcases lt_trichotomy a b with h | h | h
  · simp [h, not_lt.mpr h.le]
  · exact absurd h hab
  · simp [h, not_lt.mpr h.le]

/-- The duel between `aaaa…` and `bbbb…` in which each end first adopted the session the other
dialed. -/
theorem duel_converges_at_sample_labels :
    let a := "aaaaaaaaaaaaaaaa"
    let b := "bbbbbbbbbbbbbbbb"
    let c : Contact := ⟨0, ⟨"", "", "", "", .zero⟩, .online, true, some 0, none, none, none, 0, false⟩
    let connsA : Nat → OpenConnection := fun p => ⟨p = 1, true, false, a, b⟩
    let connsB : Nat → OpenConnection := fun p => ⟨p = 1, true, false, b, a⟩
    ∃ keptA keptB, c.keptSession connsA ⟨0, ""⟩ 1 = some keptA ∧
      c.keptSession connsB ⟨0, ""⟩ 1 = some keptB ∧
      (connsA keptA).client = decide (a < b) ∧ !(connsB keptB).client = decide (a < b) :=
  duel_converges _ _ (by decide) _ _ _ _ _ _ 0 1 0 1 rfl rfl rfl rfl (by decide) (by decide)
    (by decide) (by decide) ⟨rfl, rfl⟩ ⟨rfl, rfl⟩

end Ricochet.Contact
