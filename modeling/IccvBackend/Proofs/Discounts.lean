/-
Module: IccvBackend.Proofs.Discounts
Purpose: What a discount leaves of a cart: the same items, a cent a unit and the exact total.
Trusted boundary: none
Main exports: EspalhaExato, aplicarDesconto_exato_iff
-/
import IccvBackend.Gateways.Discount

namespace IccvBackend

/-- `semPreco`: what the discount never touches of an item. -/
def HostedCheckoutItem.semPreco (item : HostedCheckoutItem) : HostedCheckoutItem :=
  { item with unitAmountCents := 0 }

/-- The discount is spread exactly: the items, their order and their quantities are those of the
cart, no unit costs less than a cent, and the total is the cart less the discount, a cent a unit at
least. -/
structure EspalhaExato (items : List HostedCheckoutItem) (desconto : Int)
    (novos : List HostedCheckoutItem) : Prop where
  mesmos_itens : novos.map HostedCheckoutItem.semPreco = items.map HostedCheckoutItem.semPreco
  um_centavo : ∀ item ∈ novos, 1 ≤ item.unitAmountCents
  sem_desconto : desconto = 0 → novos = items
  com_desconto : 0 < desconto →
    totalEmCentavos novos = max (piso items) (totalEmCentavos items - desconto)

@[simp] theorem semPreco_darASobra (sobra : Int) (maior : HostedCheckoutItem) :
    (darASobra sobra maior).semPreco = maior.semPreco := rfl

@[simp] theorem map_semPreco_ajustados (rnd : ℚ → ℚ) (items : List HostedCheckoutItem)
    (alvo : Int) :
    (ajustados rnd items alvo).map HostedCheckoutItem.semPreco =
      items.map HostedCheckoutItem.semPreco := by
  simp [ajustados, Function.comp_def, HostedCheckoutItem.semPreco]

/-- Whatever the discount, the items, their order and their quantities stay, and no unit costs less
than a cent. -/
theorem aplicarDescontoCom_mesmos_itens {rnd : ℚ → ℚ} {items : List HostedCheckoutItem}
    {desconto : Int}
    (nonempty : items ≠ []) (units : ∀ item ∈ items, 1 ≤ item.unitAmountCents)
    (quantities : ∀ item ∈ items, 1 ≤ item.quantity) (positive : 0 < desconto) :
    (aplicarDescontoCom rnd items desconto).map HostedCheckoutItem.semPreco =
        items.map HostedCheckoutItem.semPreco ∧
      ∀ item ∈ aplicarDescontoCom rnd items desconto, 1 ≤ item.unitAmountCents := by
  have worth := (piso_pos nonempty quantities).trans_le (piso_le_totalEmCentavos units)
  obtain ⟨alvo, target⟩ : ∃ alvo, alvo = max (piso items) (totalEmCentavos items - desconto) :=
    ⟨_, rfl⟩
  obtain ⟨maior, before, after, scaled, cheaper, not_dearer⟩ :=
    exists_dearest (ajustados rnd items alvo) (by simpa using nonempty)
  rw [aplicarDescontoCom_of_pos worth positive target scaled cheaper not_dearer]
  constructor
  · have same := map_semPreco_ajustados rnd items alvo
    rw [scaled] at same
    simpa using same
  · have scaled_units : ∀ item ∈ before ++ maior :: after, 1 ≤ item.unitAmountCents := by
      intro item mem
      exact one_le_of_mem_ajustados (scaled ▸ mem)
    intro item mem
    simp only [List.mem_append, List.mem_cons] at mem scaled_units
    rcases mem with mem | rfl | mem
    · exact scaled_units item (.inl mem)
    · exact le_max_left _ _
    · exact scaled_units item (.inr (.inr mem))

/-- In exact arithmetic as in that of doubles, a discount is spread exactly when there is none, or
when the dearest scaled line can take what the rounding left over: its quantity divides the rest and
no unit of it falls below a cent. -/
theorem aplicarDesconto_exato_iff (rnd : ℚ → ℚ) (items : List HostedCheckoutItem)
    (desconto : Int) (nonempty : items ≠ []) (units : ∀ item ∈ items, 1 ≤ item.unitAmountCents)
    (quantities : ∀ item ∈ items, 1 ≤ item.quantity) (discount : 0 ≤ desconto) :
    EspalhaExato items desconto (aplicarDescontoCom rnd items desconto) ↔
      desconto = 0 ∨
        SobraAbsorvida rnd items (max (piso items) (totalEmCentavos items - desconto)) := by
  rcases discount.eq_or_lt with rfl | positive
  · have unchanged : aplicarDescontoCom rnd items 0 = items := by simp [aplicarDescontoCom]
    rw [unchanged]
    exact iff_of_true ⟨rfl, units, fun _ => rfl, fun taken => absurd taken (lt_irrefl 0)⟩ (.inl rfl)
  have worth := (piso_pos nonempty quantities).trans_le (piso_le_totalEmCentavos units)
  have fits : DescontoCabe rnd items desconto ↔
      SobraAbsorvida rnd items (max (piso items) (totalEmCentavos items - desconto)) := by
    simp [DescontoCabe, positive.ne', positive, nonempty, worth]
  have total := @totalEmCentavos_aplicarDescontoCom_eq_max_iff rnd items desconto quantities
  rw [fits] at total
  rw [← total]
  constructor
  · intro spread
    exact .inr (spread.com_desconto positive)
  · rintro (none | exact_total)
    · exact absurd none positive.ne'
    · obtain ⟨same, cents⟩ := aplicarDescontoCom_mesmos_itens nonempty units quantities positive
      exact ⟨same, cents, fun none => absurd none positive.ne', fun _ => exact_total⟩

/-- `ingressoECamisas`: one ticket and two shirts of a hundred cents each. -/
def ingressoECamisas : List HostedCheckoutItem :=
  [{ referenceId := 1, name := "Ingresso", description := "", quantity := 1,
     unitAmountCents := 100 },
   { referenceId := 2, name := "Camiseta", description := "", quantity := 2,
     unitAmountCents := 100 }]

/-- Three cents off: one of each unit. -/
theorem aplicarDesconto_three_cents :
    EspalhaExato ingressoECamisas 3 (aplicarDescontoCom id ingressoECamisas 3) :=
  (aplicarDesconto_exato_iff id ingressoECamisas 3 (by decide) (by decide) (by decide)
    (by decide)).mpr (.inr (by decide +kernel))

/-- One cent off: the dearest line is the two shirts, which cannot take a single cent. -/
theorem aplicarDesconto_one_cent :
    ¬ ∀ (items : List HostedCheckoutItem) (desconto : Int), items ≠ [] →
        (∀ item ∈ items, 1 ≤ item.unitAmountCents) → (∀ item ∈ items, 1 ≤ item.quantity) →
        0 ≤ desconto → EspalhaExato items desconto (aplicarDescontoCom id items desconto) := by
  intro always
  have spread := always ingressoECamisas 1 (by decide) (by decide) (by decide) (by decide)
  have total : totalEmCentavos (aplicarDescontoCom id ingressoECamisas 1) = 300 := by decide +kernel
  have wanted := spread.com_desconto (by decide)
  rw [total] at wanted
  exact absurd wanted (by decide)

end IccvBackend
