/-
Module: IccvBackend.Proofs.ProductWrites
Purpose: What the operations of a product form do to the rows, one product among the others at a
  time.
Trusted boundary: none
Main exports: Database.comProdutos, escreverVariantes, escreverProduto, gravarEdicao_produtos,
  gravarEdicao_deleteProduct
-/
import IccvBackend.Event.Edit
import IccvBackend.Lib.Sync

namespace IccvBackend

open Lib

/-- The ids of the variants of some products. -/
def idsDasVariantes (products : List EventProduct) : List Id :=
  products.flatMap fun product => product.variants.map EventProductVariant.id

/-- The database with other products. -/
def Database.comProdutos (db : Database) (products : List EventProduct)
    (nodup : (idsDasVariantes products).Nodup) : Database :=
  { db with catalogue := { db.catalogue with products := products, variants_nodup := nodup } }

section Linhas

variable {db : Database} {antes depois : List EventProduct} {x y : EventProduct}

theorem Catalogue.comProdutos_eq_ok {cat : Catalogue} {products : List EventProduct}
    (nodup : (idsDasVariantes products).Nodup) :
    cat.comProdutos products = .ok { cat with products := products, variants_nodup := nodup } :=
  dif_pos nodup

/-! ### One product among the others -/

theorem mem_idsDasVariantes {products : List EventProduct} {id : Id} :
    id ∈ idsDasVariantes products ↔ ∃ p ∈ products, ∃ v ∈ p.variants, v.id = id := by
  simp only [idsDasVariantes, List.mem_flatMap, List.mem_map]

theorem idsDasVariantes_focus :
    idsDasVariantes (antes ++ x :: depois) =
      idsDasVariantes antes ++ (x.variants.map EventProductVariant.id ++
        idsDasVariantes depois) := by
  simp [idsDasVariantes]

/-- A product rewritten keeps the primary key when its variants are told apart, and the new ones are
new. -/
theorem nodup_focus (nodup : (idsDasVariantes (antes ++ x :: depois)).Nodup)
    (own : (y.variants.map EventProductVariant.id).Nodup)
    (known : ∀ v ∈ y.variants, v.id ∈ x.variants.map EventProductVariant.id ∨
      v.id ∉ idsDasVariantes (antes ++ x :: depois)) :
    (idsDasVariantes (antes ++ y :: depois)).Nodup := by
  rw [idsDasVariantes_focus] at nodup known ⊢
  simp only [List.nodup_append, List.mem_append] at nodup known ⊢
  obtain ⟨left, ⟨_, right, apart⟩, outside⟩ := nodup
  refine ⟨left, ⟨own, right, ?_⟩, ?_⟩
  · intro id here other there same
    obtain ⟨v, mem, rfl⟩ := List.mem_map.mp here
    rcases known v mem with old | new
    · exact apart _ old _ there same
    · exact new (.inr (.inr (same ▸ there)))
  · intro id here other there same
    rcases there with mine | after
    · obtain ⟨v, mem, rfl⟩ := List.mem_map.mp mine
      rcases known v mem with old | new
      · exact outside id here _ (.inl old) same
      · exact new (.inl (same ▸ here))
    · exact outside id here other (.inr after) same

/-- The products other than one do not have its id. -/
theorem other_id (keys : ((antes ++ x :: depois).map EventProduct.id).Nodup) :
    (∀ p ∈ antes, p.id ≠ x.id) ∧ ∀ p ∈ depois, p.id ≠ x.id := by
  rw [List.map_append, List.map_cons, List.nodup_append] at keys
  obtain ⟨_, right, apart⟩ := keys
  constructor
  · intro p mem same
    exact apart p.id (List.mem_map_of_mem mem) x.id List.mem_cons_self same
  · intro p mem same
    exact (List.nodup_cons.mp right).1 (same ▸ List.mem_map_of_mem mem)

/-- Nor one of its variants. -/
theorem other_variant (nodup : (idsDasVariantes (antes ++ x :: depois)).Nodup) {id : Id}
    (mine : id ∈ x.variants.map EventProductVariant.id) :
    (∀ p ∈ antes, ∀ v ∈ p.variants, v.id ≠ id) ∧ ∀ p ∈ depois, ∀ v ∈ p.variants, v.id ≠ id := by
  rw [idsDasVariantes_focus] at nodup
  simp only [List.nodup_append, List.mem_append] at nodup
  obtain ⟨_, ⟨_, _, apart⟩, outside⟩ := nodup
  constructor
  · intro p mem v v_mem same
    exact outside v.id (mem_idsDasVariantes.mpr ⟨p, mem, v, v_mem, rfl⟩) id (.inl mine) same
  · intro p mem v v_mem same
    exact apart id mine v.id (mem_idsDasVariantes.mpr ⟨p, mem, v, v_mem, rfl⟩) same.symm

theorem own_nodup (nodup : (idsDasVariantes (antes ++ x :: depois)).Nodup) :
    (x.variants.map EventProductVariant.id).Nodup := by
  rw [idsDasVariantes_focus] at nodup
  exact (List.nodup_append.mp (List.nodup_append.mp nodup).2.1).1

/-- Rewriting the product of an id is rewriting that product. -/
theorem map_focus {id : Id} {f : EventProduct → EventProduct}
    (keys : ((antes ++ x :: depois).map EventProduct.id).Nodup) (is : x.id = id) :
    (antes ++ x :: depois).map (fun p => if p.id = id then f p else p) =
      antes ++ f x :: depois := by
  obtain ⟨before, after⟩ := other_id keys
  subst is
  have same : ∀ {l : List EventProduct}, (∀ p ∈ l, p.id ≠ x.id) →
      l.map (fun p => if p.id = x.id then f p else p) = l := by
    intro l others
    conv_rhs => rw [← List.map_id l]
    apply List.map_congr_left
    intro p mem
    exact if_neg (others p mem)
  rw [List.map_append, List.map_cons, same before, same after, if_pos rfl]

theorem modifyProduct_focus {id : Id} {f : EventProduct → EventProduct}
    {nodup : (idsDasVariantes (antes ++ x :: depois)).Nodup}
    (keys : ((antes ++ x :: depois).map EventProduct.id).Nodup) (is : x.id = id)
    (nodup' : (idsDasVariantes (antes ++ f x :: depois)).Nodup) :
    (db.comProdutos (antes ++ x :: depois) nodup).modifyProduct id f =
      .ok (db.comProdutos (antes ++ f x :: depois) nodup') := by
  have there : (antes ++ x :: depois).any fun p => p.id = id := by simp [is]
  unfold Database.modifyProduct
  rw [bind_eq_ok_iff]
  refine ⟨(), failIf_eq_ok_iff.mpr (not_not.mpr there), ?_⟩
  rw [bind_eq_ok_iff]
  refine ⟨_, ?_, rfl⟩
  simp only [Database.comProdutos, map_focus keys is]
  exact Catalogue.comProdutos_eq_ok nodup'

theorem modifyVariants_focus {id : Id} {f : List EventProductVariant → List EventProductVariant}
    {nodup : (idsDasVariantes (antes ++ x :: depois)).Nodup}
    (mine : id ∈ x.variants.map EventProductVariant.id)
    (others : ∀ vs : List EventProductVariant, (∀ v ∈ vs, v.id ≠ id) → f vs = vs)
    (nodup' : (idsDasVariantes (antes ++ { x with variants := f x.variants } :: depois)).Nodup) :
    (db.comProdutos (antes ++ x :: depois) nodup).modifyVariants id f =
      .ok (db.comProdutos (antes ++ { x with variants := f x.variants } :: depois) nodup') := by
  obtain ⟨before, after⟩ := other_variant nodup mine
  have same : ∀ {l : List EventProduct}, (∀ p ∈ l, ∀ v ∈ p.variants, v.id ≠ id) →
      l.map (fun p => { p with variants := f p.variants }) = l := by
    intro l apart
    conv_rhs => rw [← List.map_id l]
    apply List.map_congr_left
    intro p mem
    rw [others p.variants (apart p mem)]
    rfl
  obtain ⟨v, v_mem, rfl⟩ := List.mem_map.mp mine
  have there : (db.comProdutos (antes ++ x :: depois) nodup).catalogue.variants.any fun pair =>
      pair.2.id = v.id := by
    apply List.any_eq_true.mpr
    refine ⟨(x, v), ?_, decide_eq_true rfl⟩
    exact List.mem_flatMap.mpr ⟨x, by simp [Database.comProdutos], List.mem_map_of_mem v_mem⟩
  unfold Database.modifyVariants
  rw [bind_eq_ok_iff]
  refine ⟨(), failIf_eq_ok_iff.mpr (not_not.mpr there), ?_⟩
  rw [bind_eq_ok_iff]
  refine ⟨_, ?_, rfl⟩
  simp only [Database.comProdutos, List.map_append, List.map_cons, same before, same after]
  exact Catalogue.comProdutos_eq_ok nodup'

theorem gravarEdicao_cons {meio : Database} {op : OperacaoDeEdicao} {ops : List OperacaoDeEdicao}
    (done : db.aplicar op = .ok meio) : db.gravarEdicao (op :: ops) = meio.gravarEdicao ops := by
  unfold Database.gravarEdicao
  rw [List.foldlM_cons, done]
  rfl

/-! ### The variants of one product -/

/-- The operation of one variant of the form. -/
def ProductVariantDto.operacao (productId : Id) (variante : ProductVariantDto) : OperacaoDeEdicao :=
  match variante.id with
  | none => .createVariant productId variante
  | some _ => .updateVariant variante

/-- One variant of the form is written. -/
def escreverVariante : List EventProductVariant → ProductVariantDto → List EventProductVariant :=
  put EventProductVariant.id ProductVariantDto.id (fun v => v.row v.uuid) fun v row => v.row row.id

/-- Each variant of the form is written. -/
def escreverVariantes (rows : List EventProductVariant) (variantes : List ProductVariantDto) :
    List EventProductVariant :=
  variantes.foldl escreverVariante rows

theorem not_variantePresa {selected : Id → Bool}
    (free : ∀ id, selected id = true → db.itensDaVariante id = 0) :
    db.variantePresa selected = false := by
  apply List.any_eq_false.mpr
  intro item mem held
  have none_there := List.countP_eq_zero.mp (free item.variantId held) item mem
  exact none_there (decide_eq_true rfl)

/-- The variants that nobody bought go. -/
theorem gravarEdicao_deleteVariant (db : Database) (ids : List Id) (ops : List OperacaoDeEdicao)
    (nodup : (idsDasVariantes (antes ++ x :: depois)).Nodup)
    (mine : ∀ id ∈ ids, id ∈ x.variants.map EventProductVariant.id) (once : ids.Nodup)
    (free : ∀ id ∈ ids, db.itensDaVariante id = 0) :
    ∃ nodup', (db.comProdutos (antes ++ x :: depois) nodup).gravarEdicao
        (ids.map OperacaoDeEdicao.deleteVariant ++ ops) =
      (db.comProdutos (antes ++ { x with
        variants := x.variants.filter fun v => v.id ∉ ids } :: depois)
          nodup').gravarEdicao ops := by
  induction ids generalizing x with
  | nil =>
      have same : { x with variants := x.variants.filter fun v => v.id ∉ ([] : List Id) } = x := by
        simp
      simp only [same, List.map_nil, List.nil_append]
      exact ⟨nodup, trivial⟩
  | cons id ids ih =>
      have here := mine id List.mem_cons_self
      have nodup' : (idsDasVariantes (antes ++ { x with
          variants := x.variants.filter fun v => v.id ≠ id } :: depois)).Nodup := by
        apply nodup_focus nodup
        · exact (own_nodup nodup).sublist (List.filter_sublist.map _)
        · intro v mem
          exact .inl (List.mem_map_of_mem (List.mem_filter.mp mem).1)
      have step : (db.comProdutos (antes ++ x :: depois) nodup).aplicar (.deleteVariant id) =
          .ok (db.comProdutos _ nodup') := by
        simp only [Database.aplicar]
        rw [bind_eq_ok_iff]
        refine ⟨(), failIf_eq_ok_iff.mpr ?_, ?_⟩
        · rw [not_variantePresa]
          · exact Bool.false_ne_true
          · intro other is
            obtain rfl := of_decide_eq_true is
            exact free _ List.mem_cons_self
        · apply modifyVariants_focus here
          intro vs others
          apply List.filter_eq_self.mpr
          intro v mem
          exact decide_eq_true (others v mem)
      obtain ⟨fresh, rest⟩ := List.nodup_cons.mp once
      obtain ⟨nodup'', run⟩ := ih nodup' (fun other mem => by
          obtain ⟨v, v_mem, rfl⟩ := List.mem_map.mp (mine other (List.mem_cons_of_mem id mem))
          apply List.mem_map_of_mem
          apply List.mem_filter.mpr ⟨v_mem, _⟩
          apply decide_eq_true
          rintro rfl
          exact fresh mem) rest fun other mem => free other (List.mem_cons_of_mem id mem)
      have same : ((x.variants.filter fun v => v.id ≠ id).filter fun v => v.id ∉ ids) =
          x.variants.filter fun v => v.id ∉ id :: ids := by
        rw [List.filter_filter]
        apply List.filter_congr
        intro v _
        by_cases is : v.id = id
        · simp [is]
        · simp [is]
      simp only [same] at nodup'' run
      refine ⟨nodup'', ?_⟩
      rw [List.map_cons, List.cons_append, gravarEdicao_cons step]
      exact run

theorem id_row (v : ProductVariantDto)
    (row : EventProductVariant) : (v.row row.id).id = row.id := rfl

/-- A variant of the rows written is one they had, or the new one. -/
theorem mem_escreverVariante {rows : List EventProductVariant} {v : ProductVariantDto} {id : Id}
    (mem : id ∈ (escreverVariante rows v).map EventProductVariant.id) :
    id ∈ rows.map EventProductVariant.id ∨ id = v.uuid := by
  unfold escreverVariante put at mem
  cases is : v.id with
  | none =>
      simp only [is, List.map_append] at mem
      exact (List.mem_append.mp mem).imp_right List.mem_singleton.mp
  | some k =>
      left
      simp only [is, List.map_map] at mem
      obtain ⟨w, w_mem, rfl⟩ := List.mem_map.mp mem
      have same : (if w.id = k then v.row w.id else w).id = w.id := by
        split
        · rfl
        · rfl
      exact List.mem_map.mpr ⟨w, w_mem, same.symm⟩

theorem mem_map_escreverVariante {rows : List EventProductVariant} {v : ProductVariantDto} {id : Id}
    (mem : id ∈ rows.map EventProductVariant.id) :
    id ∈ (escreverVariante rows v).map EventProductVariant.id := by
  change id ∈ ([v].foldl escreverVariante rows).map EventProductVariant.id
  exact mem_map_foldl_put id_row mem

theorem mem_escreverVariantes {variantes : List ProductVariantDto} {rows : List EventProductVariant}
    {id : Id} (mem : id ∈ (escreverVariantes rows variantes).map EventProductVariant.id) :
    id ∈ rows.map EventProductVariant.id ∨ id ∈ variantes.map ProductVariantDto.uuid := by
  induction variantes generalizing rows with
  | nil => exact .inl mem
  | cons v variantes ih =>
      rcases ih mem with there | new
      · rcases mem_escreverVariante there with old | created
        · exact .inl old
        · exact .inr (created ▸ List.mem_cons_self)
      · exact .inr (List.mem_cons_of_mem _ new)

/-- The rows of a product may be written while the uuid is new. -/
theorem nodup_escreverVariante {v : ProductVariantDto}
    (nodup : (idsDasVariantes (antes ++ x :: depois)).Nodup)
    (new : v.uuid ∉ idsDasVariantes (antes ++ x :: depois)) :
    (idsDasVariantes (antes ++ { x with
      variants := escreverVariante x.variants v } :: depois)).Nodup := by
  have own := own_nodup nodup
  apply nodup_focus nodup
  · unfold escreverVariante put
    cases is : v.id with
    | none =>
        simp only [List.map_append, List.map_cons, List.map_nil]
        apply List.nodup_append.mpr ⟨own, List.nodup_singleton _, _⟩
        intro id here other there same
        have is_new : id = v.uuid := same.trans (List.mem_singleton.mp there)
        apply new
        rw [idsDasVariantes_focus, ← is_new]
        simp only [List.mem_append]
        exact .inr (.inl here)
    | some k =>
        have same : ∀ w : EventProductVariant, (if w.id = k then v.row w.id else w).id = w.id := by
          intro w
          split
          · rfl
          · rfl
        simp only [List.map_map, Function.comp_def, same]
        exact own
  · intro w mem
    rcases mem_escreverVariante (List.mem_map_of_mem mem) with old | is_new
    · exact .inl old
    · right
      rw [is_new]
      exact new

/-- The operation of a variant of the form writes it. -/
theorem aplicar_variante {v : ProductVariantDto} (db : Database)
    (nodup : (idsDasVariantes (antes ++ x :: depois)).Nodup)
    (keys : ((antes ++ x :: depois).map EventProduct.id).Nodup)
    (known : ∀ id, v.id = some id → id ∈ x.variants.map EventProductVariant.id)
    (nodup' : (idsDasVariantes (antes ++ { x with
      variants := escreverVariante x.variants v } :: depois)).Nodup) :
    (db.comProdutos (antes ++ x :: depois) nodup).aplicar (v.operacao x.id) =
      .ok (db.comProdutos (antes ++ { x with
        variants := escreverVariante x.variants v } :: depois) nodup') := by
  cases is : v.id with
  | none =>
      have written : escreverVariante x.variants v = x.variants ++ [v.row v.uuid] := by
        simp [escreverVariante, put, is]
      have op : v.operacao x.id = .createVariant x.id v := by simp [ProductVariantDto.operacao, is]
      simp only [written, op] at nodup' ⊢
      exact modifyProduct_focus keys rfl nodup'
  | some id =>
      have written : escreverVariante x.variants v =
          x.variants.map fun w => if w.id = id then v.row id else w := by
        simp only [escreverVariante, put, is]
        apply List.map_congr_left
        intro w _
        split
        case isTrue here => rw [here]
        case isFalse => rfl
      have op : v.operacao x.id = .updateVariant v := by simp [ProductVariantDto.operacao, is]
      simp only [written, op] at nodup' ⊢
      simp only [Database.aplicar]
      rw [bind_eq_ok_iff]
      refine ⟨id, orFail_eq_ok_iff.mpr is, ?_⟩
      apply modifyVariants_focus (known id is)
      intro vs others
      conv_rhs => rw [← List.map_id vs]
      apply List.map_congr_left
      intro w mem
      exact if_neg (others w mem)

/-- The variants of the form are written. -/
theorem gravarEdicao_variantes (db : Database) (variantes : List ProductVariantDto)
    (ops : List OperacaoDeEdicao)
    (keys : ((antes ++ x :: depois).map EventProduct.id).Nodup)
    (nodup : (idsDasVariantes (antes ++ x :: depois)).Nodup)
    (known : ∀ v ∈ variantes, ∀ id, v.id = some id → id ∈ x.variants.map EventProductVariant.id)
    (once : (variantes.map ProductVariantDto.uuid).Nodup)
    (fresh : ∀ v ∈ variantes, v.uuid ∉ idsDasVariantes (antes ++ x :: depois)) :
    ∃ nodup', (db.comProdutos (antes ++ x :: depois) nodup).gravarEdicao
        (variantes.map (ProductVariantDto.operacao x.id) ++ ops) =
      (db.comProdutos (antes ++ { x with
        variants := escreverVariantes x.variants variantes } :: depois)
          nodup').gravarEdicao ops := by
  induction variantes generalizing x with
  | nil => exact ⟨nodup, rfl⟩
  | cons v variantes ih =>
      obtain ⟨unused, once'⟩ := List.nodup_cons.mp once
      have nodup' := nodup_escreverVariante nodup (fresh v List.mem_cons_self)
      have first := aplicar_variante db nodup keys
        (known v List.mem_cons_self) nodup'
      have ids : (antes ++ { x with
          variants := escreverVariante x.variants v } :: depois).map EventProduct.id =
            (antes ++ x :: depois).map EventProduct.id := by
        simp
      obtain ⟨nodup'', rest⟩ := ih (ids ▸ keys) nodup'
        (fun w mem id is => mem_map_escreverVariante
          (known w (List.mem_cons_of_mem v mem) id is)) once' (by
          intro w mem inside
          have old := fresh w (List.mem_cons_of_mem v mem)
          rw [idsDasVariantes_focus] at inside old
          simp only [List.mem_append, not_or] at inside old
          rcases inside with before | mine | after
          · exact old.1 before
          · rcases mem_escreverVariante mine with had | same
            · exact old.2.1 had
            · exact unused (same ▸ List.mem_map_of_mem mem)
          · exact old.2.2 after)
      refine ⟨nodup'', ?_⟩
      rw [List.map_cons, List.cons_append, gravarEdicao_cons first]
      exact rest

/-! ### One product of the form -/

variable {textos : Textos} {eventId : Id} {atuais products : List EventProduct} {dto : ProductDto}
  {ops : List OperacaoDeEdicao}

/-- The photos a product sends, when they are accepted. -/
def ProductDto.fotos (dto : ProductDto) : Option (List String) :=
  (validarFotos dto.images).toOption.join

/-- The row of a product that came without an id. -/
def ProductDto.novo (textos : Textos) (eventId : Id) (dto : ProductDto) : EventProduct where
  id := dto.uuid
  eventId := eventId
  name := textos.trim dto.name
  description := (dto.aparado textos).description
  price := max 0 dto.price
  price_nonneg := le_max_left 0 dto.price
  images := dto.fotos.getD []
  variants := (dto.aparado textos).variants.map fun v => v.row v.uuid

/-- The row of a product that came with its id. -/
def ProductDto.escrito (textos : Textos) (dto : ProductDto)
    (row : EventProduct) : EventProduct where
  id := row.id
  eventId := row.eventId
  name := textos.trim dto.name
  description := (dto.aparado textos).description
  price := max 0 dto.price
  price_nonneg := le_max_left 0 dto.price
  images := dto.fotos.getD row.images
  variants := sync EventProductVariant.id ProductVariantDto.id (fun v => v.row v.uuid)
    (fun v row => v.row row.id) row.variants (dto.aparado textos).variants

/-- One product of the form is written. -/
def escreverProduto (textos : Textos) (eventId : Id) : List EventProduct → ProductDto →
    List EventProduct :=
  put EventProduct.id ProductDto.id (ProductDto.novo textos eventId) (ProductDto.escrito textos)

theorem fotos_of_validarFotos {fotos : Option (List String)}
    (valid : validarFotos dto.images = .ok fotos) : dto.fotos = fotos := by
  unfold ProductDto.fotos
  rw [valid]
  cases fotos <;> rfl

theorem removerVariantes_eq_ok {atual : EventProduct} {recebidas : List ProductVariantDto}
    (ok : removerVariantes db atual recebidas = .ok ops) :
    ops = ((atual.variants.filter fun v => !recebidas.any fun r => r.id = some v.id).map
        EventProductVariant.id).map OperacaoDeEdicao.deleteVariant ∧
      ∀ v ∈ atual.variants, (recebidas.any fun r => r.id = some v.id) = false →
        db.itensDaVariante v.id = 0 := by
  unfold removerVariantes at ok
  dsimp only at ok
  split at ok
  · cases ok
  case h_2 free =>
      obtain rfl := pure_eq_ok_iff.mp ok
      rw [List.map_map]
      refine ⟨rfl, fun v mem absent => ?_⟩
      have sold := List.find?_eq_none.mp free v (List.mem_filter.mpr ⟨mem, by simp [absent]⟩)
      simpa using sold

theorem gravarVariantes_eq_ok {atual : EventProduct} {recebidas : List ProductVariantDto}
    (ok : gravarVariantes textos atual recebidas = .ok ops) :
    ops = (recebidas.map fun v => { v with name := textos.trim v.name }).map
        (ProductVariantDto.operacao atual.id) ∧
      ∀ v ∈ recebidas, ∀ id, v.id = some id → id ∈ atual.variants.map EventProductVariant.id := by
  have each := mapM_eq_ok_iff.mp ok
  clear ok
  induction each with
  | nil => exact ⟨rfl, fun _ absent => absurd absent List.not_mem_nil⟩
  | @cons v op recebidas ops made _ ih =>
      obtain ⟨rfl, known⟩ := ih
      cases is : v.id with
      | none =>
          simp only [is, pure_eq_ok_iff] at made
          subst made
          refine ⟨by simp [ProductVariantDto.operacao, is], ?_⟩
          intro w mem id named
          rcases List.mem_cons.mp mem with rfl | later
          · rw [is] at named
            cases named
          · exact known w later id named
      | some id =>
          simp only [is] at made
          split at made
          case isTrue there =>
              obtain rfl := pure_eq_ok_iff.mp made
              refine ⟨by simp [ProductVariantDto.operacao, is], ?_⟩
              intro w mem other named
              rcases List.mem_cons.mp mem with rfl | later
              · rw [is] at named
                obtain rfl := Option.some.inj named
                obtain ⟨row, row_mem, same⟩ := List.any_eq_true.mp there
                exact List.mem_map.mpr ⟨row, row_mem, of_decide_eq_true same⟩
              · exact known w later other named
          case isFalse => cases made

/-- What is left of the variants of a product is what the form has again. -/
theorem filter_ausentes (rows : List EventProductVariant) (recebidas : List ProductVariantDto)
    (textos : Textos) :
    (rows.filter fun v => v.id ∉ (rows.filter fun v =>
        !recebidas.any fun r => r.id = some v.id).map EventProductVariant.id) =
      kept EventProductVariant.id ProductVariantDto.id rows
        (recebidas.map fun v => { v with name := textos.trim v.name }) := by
  apply List.filter_congr
  intro v mem
  rw [List.any_map]
  simp only [Function.comp_def]
  rw [Bool.eq_iff_iff, decide_eq_true_eq]
  constructor
  · intro stays
    by_contra absent
    apply stays
    exact List.mem_map_of_mem (List.mem_filter.mpr ⟨mem, by simpa using absent⟩)
  · intro again gone
    obtain ⟨w, w_mem, same⟩ := List.mem_map.mp gone
    have absent := (List.mem_filter.mp w_mem).2
    rw [same, again] at absent
    cases absent

theorem aplicar_createProduct {nodup : (idsDasVariantes products).Nodup} (valid : 0 ≤ dto.price)
    (nodup' : (idsDasVariantes (products ++ [dto.novo textos eventId])).Nodup) :
    (db.comProdutos products nodup).aplicar
        (.createProduct eventId (dto.aparado textos) (dto.fotos.getD [])) =
      .ok (db.comProdutos (products ++ [dto.novo textos eventId]) nodup') := by
  have price : max 0 dto.price = dto.price := max_eq_right valid
  have row : dto.novo textos eventId =
      { id := (dto.aparado textos).uuid, eventId := eventId, name := (dto.aparado textos).name
        description := (dto.aparado textos).description, price := (dto.aparado textos).price
        price_nonneg := valid, images := dto.fotos.getD []
        variants := (dto.aparado textos).variants.map fun v => v.row v.uuid } := by
    simp [ProductDto.novo, ProductDto.aparado, price]
  simp only [row] at nodup' ⊢
  simp only [Database.aplicar]
  rw [dif_pos (show 0 ≤ (dto.aparado textos).price from valid), bind_eq_ok_iff]
  refine ⟨_, Catalogue.comProdutos_eq_ok nodup', rfl⟩

theorem idsDasVariantes_novo :
    (dto.novo textos eventId).variants.map EventProductVariant.id =
      dto.variants.map ProductVariantDto.uuid := by
  simp [ProductDto.novo, ProductDto.aparado, ProductVariantDto.row, Function.comp_def]

theorem mem_escrito {id : Id}
    (mem : id ∈ (dto.escrito textos x).variants.map EventProductVariant.id) :
    id ∈ x.variants.map EventProductVariant.id ∨ id ∈ dto.variants.map ProductVariantDto.uuid := by
  have bound := mem_escreverVariantes mem
  rw [show (dto.aparado textos).variants.map ProductVariantDto.uuid =
    dto.variants.map ProductVariantDto.uuid by
      simp [ProductDto.aparado, Function.comp_def]] at bound
  exact bound.imp_left fun there => (List.filter_sublist.map _).subset there

/-- The columns of a product that came with its id. -/
theorem aplicar_updateProduct {fotos : Option (List String)} (db : Database)
    (nodup : (idsDasVariantes (antes ++ x :: depois)).Nodup) (valid : 0 ≤ dto.price)
    (accepted : validarFotos dto.images = .ok fotos)
    (keys : ((antes ++ x :: depois).map EventProduct.id).Nodup)
    (nodup' : (idsDasVariantes (antes ++
      { dto.escrito textos x with variants := x.variants } :: depois)).Nodup) :
    (db.comProdutos (antes ++ x :: depois) nodup).aplicar
        (.updateProduct x.id (dto.aparado textos) fotos) =
      .ok (db.comProdutos (antes ++
        { dto.escrito textos x with variants := x.variants } :: depois) nodup') := by
  have price : max 0 dto.price = dto.price := max_eq_right valid
  have row : { dto.escrito textos x with variants := x.variants } = { x with
      name := (dto.aparado textos).name
      description := (dto.aparado textos).description
      price := (dto.aparado textos).price
      price_nonneg := valid
      images := fotos.getD x.images } := by
    simp [ProductDto.escrito, ProductDto.aparado, price, fotos_of_validarFotos accepted]
  simp only [row] at nodup' ⊢
  simp only [Database.aplicar]
  rw [dif_pos (show 0 ≤ (dto.aparado textos).price from valid)]
  exact modifyProduct_focus keys rfl nodup'

/-- The variants of a product that came with its id: the absent ones go, the others are written. -/
theorem gravarEdicao_aparadas (db : Database) (textos : Textos) (dto : ProductDto)
    (resto : List OperacaoDeEdicao) (keys : ((antes ++ x :: depois).map EventProduct.id).Nodup)
    (nodup : (idsDasVariantes (antes ++ x :: depois)).Nodup)
    (free : ∀ v ∈ x.variants, (dto.variants.any fun r => r.id = some v.id) = false →
      db.itensDaVariante v.id = 0)
    (known : ∀ v ∈ dto.variants, ∀ id, v.id = some id → id ∈ x.variants.map EventProductVariant.id)
    (once : (dto.variants.map ProductVariantDto.uuid).Nodup)
    (fresh : ∀ v ∈ dto.variants, v.uuid ∉ idsDasVariantes (antes ++ x :: depois)) :
    ∃ nodup', (db.comProdutos (antes ++ x :: depois) nodup).gravarEdicao
        (((x.variants.filter fun v => !dto.variants.any fun r => r.id = some v.id).map
          EventProductVariant.id).map OperacaoDeEdicao.deleteVariant ++
        ((dto.aparado textos).variants.map (ProductVariantDto.operacao x.id) ++ resto)) =
      (db.comProdutos (antes ++ { x with
        variants := (dto.escrito textos x).variants } :: depois) nodup').gravarEdicao resto := by
  have first := gravarEdicao_deleteVariant db
    ((x.variants.filter fun v => !dto.variants.any fun r => r.id = some v.id).map
      EventProductVariant.id)
    ((dto.aparado textos).variants.map (ProductVariantDto.operacao x.id) ++ resto) nodup
    (fun id mem => (List.filter_sublist.map _).subset mem)
    ((own_nodup nodup).sublist (List.filter_sublist.map _))
    (by
      intro id mem
      obtain ⟨v, v_mem, rfl⟩ := List.mem_map.mp mem
      obtain ⟨there, absent⟩ := List.mem_filter.mp v_mem
      exact free v there (by simpa using absent))
  rw [filter_ausentes x.variants dto.variants textos] at first
  obtain ⟨nodup₁, first⟩ := first
  have second := gravarEdicao_variantes (x := { x with
      variants := kept EventProductVariant.id ProductVariantDto.id x.variants
        (dto.aparado textos).variants }) db (dto.aparado textos).variants resto
    (by simpa using keys) nodup₁
    (by
      intro v mem id given
      obtain ⟨w, w_mem, rfl⟩ := List.mem_map.mp mem
      obtain ⟨row, row_mem, rfl⟩ := List.mem_map.mp (known w w_mem id given)
      apply List.mem_map_of_mem
      exact List.mem_filter.mpr ⟨row_mem, List.any_eq_true.mpr ⟨_, mem, decide_eq_true given⟩⟩)
    (by simpa [ProductDto.aparado, Function.comp_def] using once)
    (by
      intro v mem inside
      obtain ⟨w, w_mem, rfl⟩ := List.mem_map.mp mem
      apply fresh w w_mem
      rw [idsDasVariantes_focus] at inside ⊢
      simp only [List.mem_append] at inside ⊢
      exact inside.imp_right (Or.imp_left fun still => (List.filter_sublist.map _).subset still))
  obtain ⟨nodup₂, second⟩ := second
  exact ⟨nodup₂, first.trans second⟩

/-- The operations of one product of the form write it. -/
theorem gravarEdicao_produto (resto : List OperacaoDeEdicao) (valid : 0 ≤ dto.price)
    (made : gravarProduto textos db eventId atuais dto = .ok ops)
    (keys : (products.map EventProduct.id).Nodup) (nodup : (idsDasVariantes products).Nodup)
    (here : ∀ k atual, dto.id = some k → (atuais.find? fun p => p.id = k) = some atual →
      atual ∈ products)
    (once : (dto.variants.map ProductVariantDto.uuid).Nodup)
    (fresh : ∀ v ∈ dto.variants, v.uuid ∉ idsDasVariantes products) :
    ∃ nodup', (db.comProdutos products nodup).gravarEdicao (ops ++ resto) =
      (db.comProdutos (escreverProduto textos eventId products dto) nodup').gravarEdicao resto := by
  unfold gravarProduto at made
  unfold escreverProduto put
  cases is : dto.id with
  | none =>
      simp only [is, bind_eq_ok_iff, pure_eq_ok_iff] at made
      obtain ⟨fotos, accepted, rfl⟩ := made
      have nodup' : (idsDasVariantes (products ++ [dto.novo textos eventId])).Nodup := by
        unfold idsDasVariantes
        rw [List.flatMap_append, List.flatMap_singleton, idsDasVariantes_novo]
        apply List.nodup_append.mpr ⟨nodup, once, _⟩
        rintro id old _ new rfl
        obtain ⟨v, mem, rfl⟩ := List.mem_map.mp new
        exact fresh v mem old
      refine ⟨nodup', ?_⟩
      rw [← fotos_of_validarFotos accepted, List.singleton_append]
      exact gravarEdicao_cons (aplicar_createProduct valid nodup')
  | some k =>
      simp only [is, bind_eq_ok_iff, pure_eq_ok_iff, orFail_eq_ok_iff] at made
      obtain ⟨atual, found, fotos, accepted, removidas, removed, gravadas, written, rfl⟩ := made
      obtain ⟨rfl, free⟩ := removerVariantes_eq_ok removed
      obtain ⟨rfl, known⟩ := gravarVariantes_eq_ok written
      have named := List.find?_some found
      have same_id : atual.id = k := of_decide_eq_true named
      obtain ⟨antes, depois, rfl⟩ := List.append_of_mem (here k atual is found)
      have nodup₁ : (idsDasVariantes (antes ++
          { dto.escrito textos atual with variants := atual.variants } :: depois)).Nodup := by
        rw [idsDasVariantes_focus] at nodup ⊢
        exact nodup
      have first := aplicar_updateProduct db nodup valid accepted keys nodup₁
      have rest := gravarEdicao_aparadas (x :=
          { dto.escrito textos atual with variants := atual.variants }) db textos dto resto
        (by simpa [ProductDto.escrito] using keys) nodup₁ free known once
        (by
          intro v mem
          rw [idsDasVariantes_focus]
          have new := fresh v mem
          rw [idsDasVariantes_focus] at new
          exact new)
      obtain ⟨nodup₂, rest⟩ := rest
      have whole : (antes ++ atual :: depois).map (fun a =>
          if a.id = k then dto.escrito textos a else a) =
            antes ++ dto.escrito textos atual :: depois := map_focus keys same_id
      simp only [whole]
      refine ⟨nodup₂, ?_⟩
      rw [List.cons_append, gravarEdicao_cons first, List.append_assoc]
      exact rest

/-! ### The products of the form, one after another -/

/-- What still has to be written, and the products it is written over. -/
structure AEscrever (atuais : List EventProduct) (resto : List ProductDto)
    (products : List EventProduct) : Prop where
  keys : (products.map EventProduct.id).Nodup
  ids : (resto.filterMap ProductDto.id).Nodup
  presentes : ∀ dto ∈ resto, ∀ k atual, dto.id = some k →
    (atuais.find? fun p => p.id = k) = some atual → atual ∈ products
  uuids : (resto.map ProductDto.uuid).Nodup
  novos : ∀ dto ∈ resto, dto.uuid ∉ products.map EventProduct.id
  uuidsDasVariantes :
    (resto.flatMap fun dto => dto.variants.map ProductVariantDto.uuid).Nodup
  variantesNovas : ∀ dto ∈ resto, ∀ v ∈ dto.variants, v.uuid ∉ idsDasVariantes products

theorem map_id_escreverProduto :
    (escreverProduto textos eventId products dto).map EventProduct.id =
      products.map EventProduct.id ++ if dto.id.isNone then [dto.uuid] else [] := by
  unfold escreverProduto put
  cases is : dto.id with
  | none => simp [ProductDto.novo]
  | some k =>
      simp only [List.map_map, Option.isNone_some, Bool.false_eq_true, if_false, List.append_nil]
      apply List.map_congr_left
      intro p _
      simp only [Function.comp_apply]
      split
      · rfl
      · rfl

theorem mem_idsDasVariantes_escreverProduto {id : Id}
    (mem : id ∈ idsDasVariantes (escreverProduto textos eventId products dto)) :
    id ∈ idsDasVariantes products ∨ id ∈ dto.variants.map ProductVariantDto.uuid := by
  unfold escreverProduto put at mem
  cases is : dto.id with
  | none =>
      simp only [is] at mem
      unfold idsDasVariantes at mem
      rw [List.flatMap_append, List.flatMap_singleton, idsDasVariantes_novo] at mem
      exact List.mem_append.mp mem
  | some k =>
      simp only [is] at mem
      obtain ⟨q, q_mem, v, v_mem, rfl⟩ := mem_idsDasVariantes.mp mem
      obtain ⟨p, p_mem, rfl⟩ := List.mem_map.mp q_mem
      split at v_mem
      · have bound := mem_escrito (List.mem_map_of_mem v_mem)
        refine bound.imp_left fun old => ?_
        obtain ⟨w, w_mem, same⟩ := List.mem_map.mp old
        exact mem_idsDasVariantes.mpr ⟨p, p_mem, w, w_mem, same⟩
      · exact .inl (mem_idsDasVariantes.mpr ⟨p, p_mem, v, v_mem, rfl⟩)

/-- Once a product is written, the others can be. -/
theorem AEscrever.step {resto : List ProductDto}
    (ready : AEscrever atuais (dto :: resto) products) :
    AEscrever atuais resto (escreverProduto textos eventId products dto) where
  keys := by
    rw [map_id_escreverProduto]
    split
    · apply List.nodup_append.mpr ⟨ready.keys, List.nodup_singleton _, _⟩
      rintro id old _ new rfl
      rw [List.mem_singleton.mp new] at old
      exact ready.novos dto List.mem_cons_self old
    · rw [List.append_nil]
      exact ready.keys
  ids := ready.ids.sublist ((List.sublist_cons_self dto resto).filterMap _)
  presentes := by
    intro other mem k atual is found
    have old := ready.presentes other (List.mem_cons_of_mem dto mem) k atual is found
    unfold escreverProduto put
    cases mine : dto.id with
    | none => exact List.mem_append_left _ old
    | some k' =>
        apply List.mem_map.mpr
        refine ⟨atual, old, if_neg ?_⟩
        have named := List.find?_some found
        rw [of_decide_eq_true named]
        rintro rfl
        have ids := ready.ids
        rw [List.filterMap_cons_some mine] at ids
        exact (List.nodup_cons.mp ids).1 (List.mem_filterMap.mpr ⟨other, mem, is⟩)
  uuids := (List.nodup_cons.mp ready.uuids).2
  novos := by
    intro other mem inside
    rw [map_id_escreverProduto] at inside
    rcases List.mem_append.mp inside with old | new
    · exact ready.novos other (List.mem_cons_of_mem dto mem) old
    · split at new
      · apply (List.nodup_cons.mp ready.uuids).1
        rw [← List.mem_singleton.mp new]
        exact List.mem_map_of_mem mem
      · cases new
  uuidsDasVariantes := by
    have all := ready.uuidsDasVariantes
    rw [List.flatMap_cons] at all
    exact (List.nodup_append.mp all).2.1
  variantesNovas := by
    intro other mem v v_mem inside
    rcases mem_idsDasVariantes_escreverProduto inside with old | new
    · exact ready.variantesNovas other (List.mem_cons_of_mem dto mem) v v_mem old
    · have all := ready.uuidsDasVariantes
      rw [List.flatMap_cons] at all
      apply (List.nodup_append.mp all).2.2 _ new _ _ rfl
      exact List.mem_flatMap.mpr ⟨other, mem, List.mem_map_of_mem v_mem⟩

/-- All of them are written. -/
theorem gravarEdicao_produtos {recebidos : List ProductDto}
    {gravados : List (List OperacaoDeEdicao)} (valid : ∀ dto ∈ recebidos, 0 ≤ dto.price)
    (made : List.Forall₂ (fun dto ops => gravarProduto textos db eventId atuais dto = .ok ops)
      recebidos gravados)
    (nodup : (idsDasVariantes products).Nodup) (ready : AEscrever atuais recebidos products) :
    ∃ nodup', (db.comProdutos products nodup).gravarEdicao gravados.flatten =
      .ok (db.comProdutos (recebidos.foldl (escreverProduto textos eventId) products) nodup') := by
  induction made generalizing products with
  | nil => exact ⟨nodup, rfl⟩
  | @cons dto ops recebidos gravados here _ ih =>
      have once := ready.uuidsDasVariantes
      rw [List.flatMap_cons] at once
      obtain ⟨nodup₁, first⟩ := gravarEdicao_produto gravados.flatten
        (valid dto List.mem_cons_self) here ready.keys nodup
        (fun k atual => ready.presentes dto List.mem_cons_self k atual)
        (List.nodup_append.mp once).1 (ready.variantesNovas dto List.mem_cons_self)
      obtain ⟨nodup₂, rest⟩ := ih (fun other mem => valid other (List.mem_cons_of_mem dto mem))
        nodup₁ ready.step
      refine ⟨nodup₂, ?_⟩
      rw [List.flatten_cons, first]
      exact rest

/-! ### The products that go -/

theorem gravarEdicao_deleteProduct (db : Database) (ids : List Id) (ops : List OperacaoDeEdicao)
    (nodup : (idsDasVariantes products).Nodup)
    (there : ∀ id ∈ ids, id ∈ products.map EventProduct.id) (once : ids.Nodup)
    (free : ∀ p ∈ products, p.id ∈ ids → ∀ v ∈ p.variants, db.itensDaVariante v.id = 0) :
    ∃ nodup', (db.comProdutos products nodup).gravarEdicao
        (ids.map OperacaoDeEdicao.deleteProduct ++ ops) =
      (db.comProdutos (products.filter fun p => p.id ∉ ids) nodup').gravarEdicao ops := by
  induction ids generalizing products with
  | nil =>
      have same : (products.filter fun p => p.id ∉ ([] : List Id)) = products := by simp
      simp only [same, List.map_nil, List.nil_append]
      exact ⟨nodup, trivial⟩
  | cons id ids ih =>
      have nodup' : (idsDasVariantes (products.filter fun p => p.id ≠ id)).Nodup :=
        nodup.sublist (List.filter_sublist.flatMap _)
      have step : (db.comProdutos products nodup).aplicar (.deleteProduct id) =
          .ok (db.comProdutos _ nodup') := by
        have exists_ : products.any fun p => p.id = id := by
          obtain ⟨p, mem, same⟩ := List.mem_map.mp (there id List.mem_cons_self)
          exact List.any_eq_true.mpr ⟨p, mem, decide_eq_true same⟩
        simp only [Database.aplicar]
        rw [bind_eq_ok_iff]
        refine ⟨_, Catalogue.comProdutos_eq_ok nodup', ?_⟩
        rw [bind_eq_ok_iff]
        refine ⟨(), failIf_eq_ok_iff.mpr (not_not.mpr exists_), ?_⟩
        rw [bind_eq_ok_iff]
        refine ⟨(), failIf_eq_ok_iff.mpr ?_, rfl⟩
        rw [not_variantePresa]
        · exact Bool.false_ne_true
        · intro variantId is
          obtain ⟨⟨p, v⟩, mem, both⟩ := List.any_eq_true.mp is
          simp only [Bool.and_eq_true, decide_eq_true_eq] at both
          obtain ⟨q, q_mem, pair⟩ := List.mem_flatMap.mp mem
          obtain ⟨w, w_mem, same⟩ := List.mem_map.mp pair
          obtain ⟨rfl, rfl⟩ := Prod.mk.inj same
          rw [← both.2]
          exact free q q_mem (both.1 ▸ List.mem_cons_self) w w_mem
      obtain ⟨fresh, rest⟩ := List.nodup_cons.mp once
      have run := ih nodup' (fun other mem => by
          obtain ⟨p, p_mem, rfl⟩ := List.mem_map.mp (there other (List.mem_cons_of_mem id mem))
          apply List.mem_map_of_mem
          apply List.mem_filter.mpr ⟨p_mem, _⟩
          apply decide_eq_true
          rintro rfl
          exact fresh mem) rest fun p mem gone =>
            free p (List.mem_filter.mp mem).1 (List.mem_cons_of_mem id gone)
      have same : ((products.filter fun p => p.id ≠ id).filter fun p => p.id ∉ ids) =
          products.filter fun p => p.id ∉ id :: ids := by
        rw [List.filter_filter]
        apply List.filter_congr
        intro p _
        by_cases is : p.id = id
        · simp [is]
        · simp [is]
      rw [same] at run
      rw [List.map_cons, List.cons_append, gravarEdicao_cons step]
      exact run

theorem removerProdutos_eq_ok {recebidos : List ProductDto}
    (ok : removerProdutos db atuais recebidos = .ok ops) :
    ops = ((atuais.filter fun p => !recebidos.any fun r => r.id = some p.id).map
        EventProduct.id).map OperacaoDeEdicao.deleteProduct ∧
      ∀ p ∈ atuais, (recebidos.any fun r => r.id = some p.id) = false →
        ∀ v ∈ p.variants, db.itensDaVariante v.id = 0 := by
  unfold removerProdutos at ok
  dsimp only at ok
  split at ok
  · cases ok
  case h_2 free =>
      obtain rfl := pure_eq_ok_iff.mp ok
      rw [List.map_map]
      refine ⟨rfl, fun p mem absent v v_mem => ?_⟩
      have sold := List.find?_eq_none.mp free p (List.mem_filter.mpr ⟨mem, by simp [absent]⟩)
      have unsold := List.any_eq_false.mp (Bool.eq_false_iff.mpr sold) v v_mem
      simpa using unsold

/-- An accepted product has a price that is not negative. -/
theorem price_nonneg_of_validarProdutos {recebidos : List ProductDto}
    (accepted : validarProdutos textos recebidos = .ok ()) : ∀ dto ∈ recebidos, 0 ≤ dto.price := by
  unfold validarProdutos at accepted
  rw [List.forM_eq_forM] at accepted
  induction recebidos with
  | nil => exact fun _ absent => absurd absent List.not_mem_nil
  | cons dto recebidos ih =>
      rw [List.forM_cons, bind_eq_ok_iff] at accepted
      obtain ⟨_, first, rest⟩ := accepted
      simp only [bind_eq_ok_iff, failIf_eq_ok_iff] at first
      obtain ⟨_, _, _, price, _⟩ := first
      intro other mem
      rcases List.mem_cons.mp mem with rfl | later
      · exact not_lt.mp price
      · exact ih rest other later

end Linhas

end IccvBackend
