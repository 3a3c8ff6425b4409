/-
Module: IccvBackend.Gateways.Discount
Purpose: `gateways/core/discount.ts`: the discount spread over the items of a cart, and the total
  of a cart.
Trusted boundary: human-reviewed spec
Main exports: aplicarDescontoCom, aplicarDesconto, totalEmCentavos, totalCobradoEmCentavos,
  SpreadsExactly, totalEmCentavos_aplicarDescontoCom_eq_iff, DescontoCabe,
  totalEmCentavos_aplicarDescontoCom_eq_max_iff
-/
import IccvBackend.Lib.Binary64
import IccvBackend.Gateways.Types
import Mathlib.Algebra.Order.BigOperators.Group.List
import Mathlib.Tactic.Ring

namespace IccvBackend

open Lib

/-!
Cents are whole numbers that a double holds exactly, and so are their sums.  The only arithmetic
that rounds is `alvo / total` and its product with a unit price: `rnd` is what these two operations
make of a number, `Binary64.fl` in the code and the identity in exact arithmetic.
-/

/-- `linha`: what one line of the cart costs. -/
def HostedCheckoutItem.linha (item : HostedCheckoutItem) : Int :=
  item.unitAmountCents * item.quantity

/-- The sum of the cart, in cents. -/
def totalEmCentavos (items : List HostedCheckoutItem) : Int :=
  (items.map HostedCheckoutItem.linha).sum

/-- `piso`: one cent for each unit of the cart. -/
def piso (items : List HostedCheckoutItem) : Int :=
  (items.map fun item => (item.quantity : Int)).sum

/-- `ajustados`: every unit price scaled by `alvo / total`, rounded, and one cent at least. -/
def ajustados (rnd : ℚ → ℚ) (items : List HostedCheckoutItem) (alvo : Int) :
    List HostedCheckoutItem :=
  let fator := rnd ((alvo : ℚ) / totalEmCentavos items)
  items.map fun item =>
    { item with unitAmountCents := max 1 (round (rnd (item.unitAmountCents * fator))) }

/-- The index of the line `ajustados.reduce((a, b) => (linha(a) >= linha(b) ? a : b))` ends on.  The
code then writes on that very object. -/
def indiceDoMaior (items : List HostedCheckoutItem) : Nat :=
  ((Lib.firstMax (fun line => line.1.linha) items.zipIdx).map Prod.snd).getD 0

/-- `maior.unitAmountCents = Math.max(1, maior.unitAmountCents + Math.trunc(sobra / quantity))`. -/
def darASobra (sobra : Int) (maior : HostedCheckoutItem) : HostedCheckoutItem :=
  { maior with
    unitAmountCents := max 1 (maior.unitAmountCents + sobra.tdiv maior.quantity) }

/-- The cart with the discount worked into the unit prices, in the arithmetic of `rnd`. -/
def aplicarDescontoCom (rnd : ℚ → ℚ) (items : List HostedCheckoutItem) (desconto : Int) :
    List HostedCheckoutItem :=
  if desconto ≤ 0 ∨ items = [] then items
  else
    let total := totalEmCentavos items
    if total ≤ 0 then items
    else
      let alvo := max (piso items) (total - desconto)
      let novos := ajustados rnd items alvo
      let sobra := alvo - totalEmCentavos novos
      if sobra = 0 then novos else novos.modify (indiceDoMaior novos) (darASobra sobra)

/-- The cart the code sends: its arithmetic is that of doubles. -/
def aplicarDesconto (items : List HostedCheckoutItem) (desconto : Int) :
    List HostedCheckoutItem :=
  aplicarDescontoCom Binary64.fl items desconto

/-- What the participant is going to pay, with the discount taken off: the number stored as
`chargedAmountCents`. -/
def totalCobradoEmCentavos (items : List HostedCheckoutItem) (desconto : Int) : Int :=
  totalEmCentavos (aplicarDesconto items desconto)

/-! ### Totals -/

@[simp] theorem totalEmCentavos_nil : totalEmCentavos [] = 0 := rfl

@[simp] theorem totalEmCentavos_cons (item : HostedCheckoutItem)
    (items : List HostedCheckoutItem) :
    totalEmCentavos (item :: items) = item.linha + totalEmCentavos items := by
  simp [totalEmCentavos]

@[simp] theorem totalEmCentavos_append (xs ys : List HostedCheckoutItem) :
    totalEmCentavos (xs ++ ys) = totalEmCentavos xs + totalEmCentavos ys := by
  simp [totalEmCentavos]

@[simp] theorem piso_cons (item : HostedCheckoutItem) (items : List HostedCheckoutItem) :
    piso (item :: items) = item.quantity + piso items := by
  simp [piso]

@[simp] theorem piso_append (xs ys : List HostedCheckoutItem) :
    piso (xs ++ ys) = piso xs + piso ys := by
  simp [piso]

/-- A cart whose units cost a cent at least is worth its number of units at least. -/
theorem piso_le_totalEmCentavos {items : List HostedCheckoutItem}
    (units : ∀ item ∈ items, 1 ≤ item.unitAmountCents) : piso items ≤ totalEmCentavos items := by
  induction items with
  | nil => simp [piso]
  | cons item items ih =>
      have head : (item.quantity : Int) ≤ item.linha := by
        have unit := units item (by simp)
        have quantity : (0 : Int) ≤ item.quantity := Int.natCast_nonneg _
        simp only [HostedCheckoutItem.linha]
        nlinarith
      have tail := ih fun other mem => units other (by simp [mem])
      simp only [piso_cons, totalEmCentavos_cons]
      omega

theorem piso_pos {items : List HostedCheckoutItem} (nonempty : items ≠ [])
    (quantities : ∀ item ∈ items, 1 ≤ item.quantity) : 0 < piso items := by
  cases items with
  | nil => contradiction
  | cons item items =>
      have head := quantities item (by simp)
      have tail : 0 ≤ piso items := by
        refine List.sum_nonneg fun q mem => ?_
        obtain ⟨other, _, rfl⟩ := List.mem_map.mp mem
        exact Int.natCast_nonneg _
      simp only [piso_cons]
      omega

/-! ### The dearest line -/

/-- Writing on the dearest line writes on the first of the dearest lines. -/
theorem modify_indiceDoMaior (f : HostedCheckoutItem → HostedCheckoutItem)
    {before after : List HostedCheckoutItem} {maior : HostedCheckoutItem}
    (cheaper : ∀ item ∈ before, item.linha < maior.linha)
    (not_dearer : ∀ item ∈ after, item.linha ≤ maior.linha) :
    (before ++ maior :: after).modify (indiceDoMaior (before ++ maior :: after)) f =
      before ++ f maior :: after := by
  have chosen : Lib.firstMax (fun line : HostedCheckoutItem × Nat => line.1.linha)
      (before ++ maior :: after).zipIdx = some (maior, before.length) := by
    rw [Lib.firstMax_eq_some_iff, List.zipIdx_append, List.zipIdx_cons]
    refine ⟨before.zipIdx, after.zipIdx (0 + before.length + 1), by simp, ?_, ?_⟩
    · exact fun line mem => cheaper line.1 (List.fst_mem_of_mem_zipIdx mem)
    · exact fun line mem => not_dearer line.1 (List.fst_mem_of_mem_zipIdx mem)
  have index : indiceDoMaior (before ++ maior :: after) = before.length := by
    simp [indiceDoMaior, chosen]
  rw [index, List.modify_eq_take_cons_drop (by simp)]
  simp

/-- A cart with a line has a dearest line. -/
theorem exists_dearest (items : List HostedCheckoutItem) (nonempty : items ≠ []) :
    ∃ maior, Lib.IsFirstMax HostedCheckoutItem.linha items maior := by
  cases found : Lib.firstMax HostedCheckoutItem.linha items with
  | none => exact absurd (Lib.firstMax_eq_none_iff.mp found) nonempty
  | some maior => exact ⟨maior, Lib.firstMax_eq_some_iff.mp found⟩

/-- Nothing left over leaves the dearest line as it is. -/
theorem darASobra_zero {maior : HostedCheckoutItem} (unit : 1 ≤ maior.unitAmountCents) :
    darASobra 0 maior = maior := by
  simp [darASobra, unit]

/-- The dearest line absorbs the whole remainder when its quantity divides it and no unit of it
falls below a cent, and only then. -/
theorem darASobra_linha_iff {sobra : Int} {maior : HostedCheckoutItem}
    (quantity : 1 ≤ maior.quantity) :
    (darASobra sobra maior).linha - maior.linha = sobra ↔
      (maior.quantity : Int) ∣ sobra ∧ 1 ≤ maior.unitAmountCents + sobra / maior.quantity := by
  have q_ne : (maior.quantity : Int) ≠ 0 := by omega
  have moved : (darASobra sobra maior).linha - maior.linha =
      maior.quantity * (max 1 (maior.unitAmountCents + sobra.tdiv maior.quantity) -
        maior.unitAmountCents) := by
    simp only [darASobra, HostedCheckoutItem.linha]
    ring
  rw [moved]
  constructor
  · intro absorbed
    have divides : (maior.quantity : Int) ∣ sobra := ⟨_, absorbed.symm⟩
    refine ⟨divides, ?_⟩
    have exact_quotient := Int.tdiv_eq_ediv_of_dvd divides
    have quotient := Int.ediv_eq_of_eq_mul_right q_ne absorbed.symm
    rw [exact_quotient] at quotient
    omega
  · rintro ⟨⟨part, rfl⟩, cents⟩
    rw [Int.mul_ediv_cancel_left _ q_ne] at cents
    rw [Int.mul_tdiv_cancel_left _ q_ne, max_eq_right cents]
    ring

/-! ### What is charged -/

variable {rnd : ℚ → ℚ}

theorem one_le_of_mem_ajustados {items : List HostedCheckoutItem} {alvo : Int}
    {item : HostedCheckoutItem} (mem : item ∈ ajustados rnd items alvo) :
    1 ≤ item.unitAmountCents := by
  obtain ⟨_, _, rfl⟩ := List.mem_map.mp mem
  exact le_max_left _ _

@[simp] theorem piso_ajustados (items : List HostedCheckoutItem) (alvo : Int) :
    piso (ajustados rnd items alvo) = piso items := by
  simp [piso, ajustados, Function.comp_def]

@[simp] theorem ajustados_eq_nil {items : List HostedCheckoutItem} {alvo : Int} :
    ajustados rnd items alvo = [] ↔ items = [] := by
  simp [ajustados]

/-- The scaled prices add up to the cart less the discount, but for a remainder that the dearest
line can absorb: the discount leaves a cent a unit, the quantity of that line divides the remainder
and its units stay at a cent or above. -/
structure SpreadsExactly (rnd : ℚ → ℚ) (items : List HostedCheckoutItem)
    (desconto : Int) : Prop where
  cent_a_unit : desconto ≤ totalEmCentavos items - piso items
  absorbed : ∀ maior,
    Lib.IsFirstMax HostedCheckoutItem.linha
      (ajustados rnd items (totalEmCentavos items - desconto)) maior →
    let sobra := totalEmCentavos items - desconto -
      totalEmCentavos (ajustados rnd items (totalEmCentavos items - desconto))
    (maior.quantity : Int) ∣ sobra ∧ 1 ≤ maior.unitAmountCents + sobra / maior.quantity

/-- The cart a positive discount leaves: scaled prices, and the remainder on the dearest line. -/
theorem aplicarDescontoCom_of_pos {items before after : List HostedCheckoutItem}
    {maior : HostedCheckoutItem} {desconto alvo : Int}
    (worth : 0 < totalEmCentavos items) (positive : 0 < desconto)
    (target : alvo = max (piso items) (totalEmCentavos items - desconto))
    (scaled : ajustados rnd items alvo = before ++ maior :: after)
    (cheaper : ∀ item ∈ before, item.linha < maior.linha)
    (not_dearer : ∀ item ∈ after, item.linha ≤ maior.linha) :
    aplicarDescontoCom rnd items desconto =
      before ++ darASobra (alvo - totalEmCentavos (ajustados rnd items alvo)) maior :: after := by
  have nonempty : items ≠ [] := by
    rintro rfl
    simp at worth
  have spread : ¬ (desconto ≤ 0 ∨ items = []) := by simp [nonempty, positive]
  simp only [aplicarDescontoCom, if_neg spread, if_neg (not_le.mpr worth), ← target]
  split
  · next nothing_over =>
      have unit : 1 ≤ maior.unitAmountCents :=
        one_le_of_mem_ajustados (by simp [scaled] : maior ∈ ajustados rnd items alvo)
      rw [nothing_over, darASobra_zero unit, scaled]
  · rw [scaled, modify_indiceDoMaior _ cheaper not_dearer]

/-- A discount never takes the charge below a cent a unit. -/
theorem piso_le_aplicarDescontoCom {items : List HostedCheckoutItem} {desconto : Int}
    (units : ∀ item ∈ items, 1 ≤ item.unitAmountCents)
    (quantities : ∀ item ∈ items, 1 ≤ item.quantity) :
    piso items ≤ totalEmCentavos (aplicarDescontoCom rnd items desconto) := by
  by_cases spread : desconto ≤ 0 ∨ items = []
  · simpa [aplicarDescontoCom, spread] using piso_le_totalEmCentavos units
  obtain ⟨positive, nonempty⟩ := not_or.mp spread
  have worth := (piso_pos nonempty quantities).trans_le (piso_le_totalEmCentavos units)
  obtain ⟨alvo, target⟩ : ∃ alvo, alvo = max (piso items) (totalEmCentavos items - desconto) :=
    ⟨_, rfl⟩
  obtain ⟨maior, before, after, scaled, cheaper, not_dearer⟩ :=
    exists_dearest (ajustados rnd items alvo) (by simpa using nonempty)
  have same_piso : piso items = piso (before ++ maior :: after) := by
    rw [← scaled, piso_ajustados]
  rw [aplicarDescontoCom_of_pos worth (not_le.mp positive) target scaled
    cheaper not_dearer, same_piso]
  have result_units : ∀ item ∈ before ++ darASobra
      (alvo - totalEmCentavos (ajustados rnd items alvo)) maior :: after,
      1 ≤ item.unitAmountCents := by
    intro item mem
    have scaled_units : ∀ item ∈ before ++ maior :: after, 1 ≤ item.unitAmountCents :=
      fun item mem => one_le_of_mem_ajustados (scaled ▸ mem)
    simp only [List.mem_append, List.mem_cons] at mem scaled_units
    rcases mem with mem | rfl | mem
    · exact scaled_units item (.inl mem)
    · exact le_max_left _ _
    · exact scaled_units item (.inr (.inr mem))
  refine le_of_eq_of_le ?_ (piso_le_totalEmCentavos result_units)
  simp [darASobra]

/-- The charge is the cart less the discount exactly when the discount spreads exactly. -/
theorem totalEmCentavos_aplicarDescontoCom_eq_iff {items : List HostedCheckoutItem} {desconto : Int}
    (nonempty : items ≠ []) (units : ∀ item ∈ items, 1 ≤ item.unitAmountCents)
    (quantities : ∀ item ∈ items, 1 ≤ item.quantity) (discount : 0 ≤ desconto) :
    totalEmCentavos (aplicarDescontoCom rnd items desconto) = totalEmCentavos items - desconto ↔
      desconto = 0 ∨ SpreadsExactly rnd items desconto := by
  have worth := (piso_pos nonempty quantities).trans_le (piso_le_totalEmCentavos units)
  rcases discount.eq_or_lt with rfl | positive
  · simp [aplicarDescontoCom]
  -- both sides leave a cent a unit, so the target is the cart less the discount
  have floor : piso items ≤ totalEmCentavos (aplicarDescontoCom rnd items desconto) :=
    piso_le_aplicarDescontoCom units quantities
  by_cases cent_a_unit : desconto ≤ totalEmCentavos items - piso items
  swap
  · have no_spread : ¬ SpreadsExactly rnd items desconto := fun spreads =>
      cent_a_unit spreads.cent_a_unit
    simp only [no_spread, or_false]
    omega
  have target : totalEmCentavos items - desconto =
      max (piso items) (totalEmCentavos items - desconto) := by omega
  obtain ⟨maior, dearest⟩ := exists_dearest
    (ajustados rnd items (totalEmCentavos items - desconto)) (by simpa using nonempty)
  have absorbed_iff : SpreadsExactly rnd items desconto ↔ _ :=
    ⟨fun spreads => spreads.absorbed maior dearest, fun absorbed =>
      ⟨cent_a_unit, fun other first => first.unique dearest ▸ absorbed⟩⟩
  obtain ⟨before, after, scaled, cheaper, not_dearer⟩ := dearest
  have maior_quantity : 1 ≤ maior.quantity := by
    have mem : maior ∈ ajustados rnd items (totalEmCentavos items - desconto) := by simp [scaled]
    obtain ⟨item, item_mem, rfl⟩ := List.mem_map.mp mem
    exact quantities item item_mem
  have charged := aplicarDescontoCom_of_pos worth positive target scaled cheaper not_dearer
  rw [absorbed_iff, ← darASobra_linha_iff maior_quantity, charged]
  have scaled_total := congrArg totalEmCentavos scaled
  simp only [totalEmCentavos_append, totalEmCentavos_cons] at scaled_total ⊢
  omega

/-- The dearest line of the scaled cart takes what the rounding left over: its quantity divides the
rest and its units stay at a cent or above. -/
def SobraAbsorvida (rnd : ℚ → ℚ) (items : List HostedCheckoutItem) (alvo : Int) : Prop :=
  ∀ maior, Lib.IsFirstMax HostedCheckoutItem.linha (ajustados rnd items alvo) maior →
    let sobra := alvo - totalEmCentavos (ajustados rnd items alvo)
    (maior.quantity : Int) ∣ sobra ∧ 1 ≤ maior.unitAmountCents + sobra / maior.quantity

/-- The cart less the discount, a cent a unit at least, is a total the unit prices can add up to. -/
def DescontoCabe (rnd : ℚ → ℚ) (items : List HostedCheckoutItem) (desconto : Int) : Prop :=
  if desconto = 0 then piso items ≤ totalEmCentavos items
  else
    0 < desconto ∧ (items = [] ∨ 0 < totalEmCentavos items ∧
      SobraAbsorvida rnd items (max (piso items) (totalEmCentavos items - desconto)))

instance {items : List HostedCheckoutItem}
    {alvo : Int} : Decidable (SobraAbsorvida rnd items alvo) :=
  decidable_of_iff
    (∀ maior ∈ Lib.firstMax HostedCheckoutItem.linha (ajustados rnd items alvo),
      (maior.quantity : Int) ∣ alvo - totalEmCentavos (ajustados rnd items alvo) ∧
        1 ≤ maior.unitAmountCents +
          (alvo - totalEmCentavos (ajustados rnd items alvo)) / maior.quantity)
    (forall_congr' fun _ => imp_congr_left Lib.firstMax_eq_some_iff)

instance {items : List HostedCheckoutItem} {desconto : Int} :
    Decidable (DescontoCabe rnd items desconto) :=
  inferInstanceAs (Decidable (if desconto = 0 then piso items ≤ totalEmCentavos items
    else 0 < desconto ∧ (items = [] ∨ 0 < totalEmCentavos items ∧
      SobraAbsorvida rnd items (max (piso items) (totalEmCentavos items - desconto)))))

/-- The charge is the cart less the discount, a cent a unit at least, exactly when the discount
fits the cart. -/
theorem totalEmCentavos_aplicarDescontoCom_eq_max_iff {items : List HostedCheckoutItem}
    {desconto : Int} (quantities : ∀ item ∈ items, 1 ≤ item.quantity) :
    totalEmCentavos (aplicarDescontoCom rnd items desconto) = max (piso items)
      (totalEmCentavos items - desconto) ↔ DescontoCabe rnd items desconto := by
  unfold DescontoCabe
  rcases lt_trichotomy desconto 0 with negative | rfl | positive
  · rw [if_neg negative.ne, aplicarDescontoCom, if_pos (.inl negative.le)]
    omega
  · simp only [aplicarDescontoCom, le_refl, true_or, if_true]
    omega
  rw [if_neg positive.ne']
  by_cases nonempty : items = []
  · subst nonempty
    have below : totalEmCentavos [] - desconto ≤ 0 := by simpa using positive.le
    simp [aplicarDescontoCom, piso, positive, positive.le]
  by_cases worth : totalEmCentavos items ≤ 0
  · have units := piso_pos nonempty quantities
    have unspread : totalEmCentavos (aplicarDescontoCom rnd items desconto) =
        totalEmCentavos items := by
      simp [aplicarDescontoCom, worth]
    rw [unspread]
    simp only [nonempty, false_or]
    omega
  replace worth := not_le.mp worth
  obtain ⟨alvo, target⟩ : ∃ alvo, alvo = max (piso items) (totalEmCentavos items - desconto) :=
    ⟨_, rfl⟩
  obtain ⟨maior, dearest⟩ := exists_dearest (ajustados rnd items alvo) (by simpa using nonempty)
  have absorbed_iff : SobraAbsorvida rnd items alvo ↔ _ :=
    ⟨fun absorbed => absorbed maior dearest, fun absorbed other first =>
      first.unique dearest ▸ absorbed⟩
  obtain ⟨before, after, scaled, cheaper, not_dearer⟩ := dearest
  have maior_quantity : 1 ≤ maior.quantity := by
    have mem : maior ∈ ajustados rnd items alvo := by simp [scaled]
    obtain ⟨item, item_mem, rfl⟩ := List.mem_map.mp mem
    exact quantities item item_mem
  have charged := aplicarDescontoCom_of_pos worth positive target scaled cheaper not_dearer
  simp only [nonempty, false_or, positive, worth, true_and]
  rw [← target, absorbed_iff, ← darASobra_linha_iff maior_quantity, charged]
  have scaled_total := congrArg totalEmCentavos scaled
  simp only [totalEmCentavos_append, totalEmCentavos_cons] at scaled_total ⊢
  omega

end IccvBackend
