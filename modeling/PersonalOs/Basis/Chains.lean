import Mathlib

/-!
# Chains of a link relation

A link that leads every member to at most one member, to each from at most one, and always to
a higher rank, splits its members into disjoint linear chains. Every chain has one last member,
and of two members of a chain one leads to the other.
-/

namespace Chains

variable {α : Type*}

/-- What a link relation between the members of a table keeps to. -/
structure Chained (Member : α → Prop) (Link : α → α → Prop) (rank : α → Nat) : Prop where
  target : ∀ {a b}, Member a → Link a b → Member b
  functional : ∀ {a b c}, Member a → Link a b → Link a c → b = c
  injective : ∀ {a b c}, Member a → Member b → Link a c → Link b c → a = b
  rises : ∀ {a b}, Member a → Link a b → rank a < rank b
  bounded : ∃ n, ∀ a, Member a → rank a < n

/-- A member reaches another over links. -/
abbrev Leads (Link : α → α → Prop) : α → α → Prop := Relation.ReflTransGen Link

/-- A member without a link. -/
def Last (Link : α → α → Prop) (a : α) : Prop := ∀ b, ¬Link a b

variable {Member : α → Prop} {Link : α → α → Prop} {rank : α → Nat}

variable {a b : α}

theorem Chained.member_of_leads (hc : Chained Member Link rank) (hm : Member a)
    (hl : Leads Link a b) : Member b := by
  induction hl with
  | refl => exact hm
  | tail _ hli ih => exact hc.target ih hli

theorem eq_of_last (hla : Last Link a) (hl : Leads Link a b) : a = b := by
  rcases hl.cases_head with he | ⟨c, hli, _⟩
  · exact he
  · exact absurd hli (hla c)

theorem Chained.comparable_of_start (hc : Chained Member Link rank) {c : α} (hm : Member a)
    (toB : Leads Link a b) (toC : Leads Link a c) :
    Leads Link b c ∨ Leads Link c b := by
  induction toB with
  | refl => exact .inl toC
  | @tail d e hb hl ih =>
    rcases ih with hfr | toD
    · rcases hfr.cases_head with he | ⟨x, hf, hr⟩
      · subst he
        exact .inr (.single hl)
      · have he : e = x := hc.functional (hc.member_of_leads hm hb) hl hf
        subst he
        exact .inl hr
    · exact .inr (toD.tail hl)

theorem Chained.exists_last (hc : Chained Member Link rank) (hm : Member a) :
    ∃! b, Leads Link a b ∧ Last Link b := by
  obtain ⟨n, hb⟩ := hc.bounded
  have he : ∀ k a, Member a → n ≤ rank a + k → ∃ b, Leads Link a b ∧ Last Link b := by
    intro k
    induction k with
    | zero =>
      intro a hm hcl
      exact absurd (hb a hm) (Nat.not_lt.mpr hcl)
    | succ k ih =>
      intro a hm hcl
      by_cases hs : Last Link a
      · exact ⟨a, .refl, hs⟩
      · obtain ⟨b, hli⟩ : ∃ b, Link a b := by simpa [Last] using hs
        have hh := hc.rises hm hli
        obtain ⟨c, hl, hla⟩ := ih b (hc.target hm hli) (by omega)
        exact ⟨c, .head hli hl, hla⟩
  obtain ⟨b, hl, hla⟩ := he n a hm (Nat.le_add_left n _)
  refine ⟨b, ⟨hl, hla⟩, ?_⟩
  rintro c ⟨hl', hla'⟩
  rcases hc.comparable_of_start hm hl hl' with ho | hba
  · exact (eq_of_last hla ho).symm
  · exact eq_of_last hla' hba

/-- Of two members that lead to the same one, one leads to the other. -/
theorem Chained.comparable (hc : Chained Member Link rank) {c : α} (hh : Member a)
    (hha : Member b) (hfr : Leads Link a c) (hf : Leads Link b c) :
    Leads Link a b ∨ Leads Link b a := by
  induction hfr using Relation.ReflTransGen.head_induction_on generalizing b with
  | refl => exact .inr hf
  | @head x y hl hr ih =>
    rcases ih (hc.target hh hl) hha hf with toB | hf'
    · exact .inl (.head hl toB)
    · rcases hf'.cases_tail with he | ⟨z, hb, hla⟩
      · subst he
        exact .inl (.single hl)
      · have he : z = x := hc.injective (hc.member_of_leads hha hb) hh hla hl
        subst he
        exact .inr hb

theorem Chained.rank_le (hc : Chained Member Link rank) (hm : Member a)
    (hl : Leads Link a b) : rank a ≤ rank b := by
  induction hl with
  | refl => exact Nat.le_refl _
  | tail hb hli ih =>
    exact Nat.le_trans ih (Nat.le_of_lt (hc.rises (hc.member_of_leads hm hb) hli))

theorem Chained.acyclic (hc : Chained Member Link rank) (hm : Member a) (hl : Link a b) :
    ¬Leads Link b a := by
  intro hb
  have hlo := hc.rank_le (hc.target hm hl) hb
  exact absurd (hc.rises hm hl) (Nat.not_lt.mpr hlo)

end Chains
