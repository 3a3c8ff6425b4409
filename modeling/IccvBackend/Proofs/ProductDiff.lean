/-
Module: IccvBackend.Proofs.ProductDiff
Purpose: What the operations of `operacoesDeProdutos` make of the catalogue of an event: exactly the
  products and variants of the form.
Trusted boundary: none
Main exports: LinhaDoProduto, CatalogoEnviado, RecusaDeProdutos, operacoesDeProdutos_catalogo
-/
import IccvBackend.Proofs.ProductWrites

namespace IccvBackend

open Lib

/-! ### The catalogue -/

section Catalogo

variable {textos : Textos} {db : Database} {eventId : Id} {recebidos : List ProductDto}

/-- The products of an event. -/
def Database.produtosDoEvento (db : Database) (eventId : Id) : List EventProduct :=
  db.catalogue.products.filter fun produto => produto.eventId = eventId

/-- A product of the form and its row.  `atuais` are the rows before. -/
structure LinhaDoProduto (textos : Textos) (eventId : Id) (atuais : List EventProduct)
    (dto : ProductDto) (row : EventProduct) : Prop where
  id : row.id = dto.id.getD dto.uuid
  eventId : row.eventId = eventId
  name : row.name = textos.trim dto.name
  description : row.description =
    (dto.description.map textos.trim).filter fun texto => texto ≠ ""
  price : row.price = dto.price
  /-- Photos that were not sent stay as they were. -/
  images : ∃ fotos, validarFotos dto.images = .ok fotos ∧ row.images = fotos.getD
    (((dto.id.bind fun id => atuais.find? fun p => p.id = id).map EventProduct.images).getD [])
  variants : row.variants.Perm (dto.variants.map fun v =>
    { id := if dto.id.isSome then v.id.getD v.uuid else v.uuid
      name := textos.trim v.name
      stock := v.stock.map Int.toNat })

/-- The event has exactly the products of the form, and nothing else changed. -/
structure CatalogoEnviado (textos : Textos) (db depois : Database) (eventId : Id)
    (recebidos : List ProductDto) : Prop where
  produtos : ∃ ordem : List ProductDto, ordem.Perm recebidos ∧
    List.Forall₂ (LinhaDoProduto textos eventId (db.produtosDoEvento eventId)) ordem
      (depois.produtosDoEvento eventId)
  outros : (depois.catalogue.products.filter fun p => p.eventId ≠ eventId) =
    db.catalogue.products.filter fun p => p.eventId ≠ eventId
  /-- What was bought is still there, in its product. -/
  vendidos : ∀ p ∈ db.catalogue.products, ∀ v ∈ p.variants, 0 < db.itensDaVariante v.id →
    ∃ q ∈ depois.catalogue.products, q.id = p.id ∧ v.id ∈ q.variants.map EventProductVariant.id
  resto : ∃ nodup, depois = db.comProdutos depois.catalogue.products nodup

/-- Why a form is refused. -/
inductive RecusaDeProdutos (db : Database) (eventId : Id) (recebidos : List ProductDto) : Prop where
  | produtoEstranho (dto : ProductDto) (mem : dto ∈ recebidos) (id : Id) (is : dto.id = some id)
      (absent : ∀ p ∈ db.produtosDoEvento eventId, p.id ≠ id)
  | varianteEstranha (dto : ProductDto) (mem : dto ∈ recebidos) (p : EventProduct)
      (p_mem : p ∈ db.produtosDoEvento eventId) (is : dto.id = some p.id) (v : ProductVariantDto)
      (v_mem : v ∈ dto.variants) (id : Id) (v_is : v.id = some id)
      (absent : ∀ w ∈ p.variants, w.id ≠ id)
  | produtoVendido (p : EventProduct) (p_mem : p ∈ db.produtosDoEvento eventId)
      (absent : ∀ dto ∈ recebidos, dto.id ≠ some p.id) (v : EventProductVariant)
      (v_mem : v ∈ p.variants) (sold : 0 < db.itensDaVariante v.id)
  | varianteVendida (dto : ProductDto) (mem : dto ∈ recebidos) (p : EventProduct)
      (p_mem : p ∈ db.produtosDoEvento eventId) (is : dto.id = some p.id)
      (v : EventProductVariant) (v_mem : v ∈ p.variants)
      (absent : ∀ w ∈ dto.variants, w.id ≠ some v.id) (sold : 0 < db.itensDaVariante v.id)
  | fotoRecusada (dto : ProductDto) (mem : dto ∈ recebidos) (falha : Failure)
      (refused : validarFotos dto.images = .error falha)

/-- No id is repeated in the form. -/
structure SemRepetir (recebidos : List ProductDto) : Prop where
  produtos : (recebidos.filterMap ProductDto.id).Nodup
  variantes : ∀ dto ∈ recebidos, (dto.variants.filterMap ProductVariantDto.id).Nodup

/-- The uuids made up for new rows are new. -/
structure UuidsNovos (db : Database) (recebidos : List ProductDto) : Prop where
  uuids : (recebidos.map ProductDto.uuid).Nodup
  produtos : ∀ dto ∈ recebidos, dto.uuid ∉ db.catalogue.products.map EventProduct.id
  uuidsDasVariantes : (recebidos.flatMap fun dto => dto.variants.map ProductVariantDto.uuid).Nodup
  variantes : ∀ dto ∈ recebidos, ∀ v ∈ dto.variants, v.uuid ∉ idsDasVariantes db.catalogue.products

theorem find?_produto {products : List EventProduct} (keys : (products.map EventProduct.id).Nodup)
    {p : EventProduct} (mem : p ∈ products) :
    (products.find? fun q => q.id = p.id) = some p := by
  cases found : products.find? fun q => q.id = p.id with
  | none => exact absurd (decide_eq_true rfl) (List.find?_eq_none.mp found p mem)
  | some q =>
      have named := List.find?_some found
      rw [List.inj_on_of_nodup_map keys (List.mem_of_find?_eq_some found) mem
        (of_decide_eq_true named)]

/-- What a product with an id needs to be accepted. -/
theorem gravarProduto_eq_ok {atuais : List EventProduct} {dto : ProductDto}
    {ops : List OperacaoDeEdicao} (ok : gravarProduto textos db eventId atuais dto = .ok ops) :
    (∃ fotos, validarFotos dto.images = .ok fotos) ∧
      ∀ k, dto.id = some k → ∃ atual, (atuais.find? fun p => p.id = k) = some atual ∧
        (∀ v ∈ dto.variants, ∀ id, v.id = some id →
          id ∈ atual.variants.map EventProductVariant.id) ∧
        ∀ v ∈ atual.variants, (dto.variants.any fun r => r.id = some v.id) = false →
          db.itensDaVariante v.id = 0 := by
  unfold gravarProduto at ok
  cases is : dto.id with
  | none =>
      simp only [is, bind_eq_ok_iff] at ok
      obtain ⟨fotos, accepted, _⟩ := ok
      refine ⟨⟨fotos, accepted⟩, ?_⟩
      intro k absent
      cases absent
  | some k =>
      simp only [is, bind_eq_ok_iff, orFail_eq_ok_iff] at ok
      obtain ⟨atual, found, fotos, accepted, removidas, removed, gravadas, written, _⟩ := ok
      refine ⟨⟨fotos, accepted⟩, fun k' same => ?_⟩
      obtain rfl := Option.some.inj same
      exact ⟨atual, found, (gravarVariantes_eq_ok written).2, (removerVariantes_eq_ok removed).2⟩

theorem exists_of_forall₂ {α β : Type} {R : α → β → Prop} {l : List α} {ys : List β}
    (all : List.Forall₂ R l ys) {a : α} (mem : a ∈ l) : ∃ b, R a b := by
  induction all with
  | nil => cases mem
  | @cons c b _ _ here _ ih =>
      rcases List.mem_cons.mp mem with rfl | later
      · exact ⟨b, here⟩
      · exact ih later

/-- The products that are in the form no more. -/
def Database.ausentes (db : Database) (eventId : Id) (recebidos : List ProductDto) : List Id :=
  ((db.produtosDoEvento eventId).filter fun p =>
    !recebidos.any fun r => r.id = some p.id).map EventProduct.id

/-- The products after the edit. -/
def Database.escritos (db : Database) (textos : Textos) (eventId : Id)
    (recebidos : List ProductDto) : List EventProduct :=
  recebidos.foldl (escreverProduto textos eventId)
    (db.catalogue.products.filter fun p => p.id ∉ db.ausentes eventId recebidos)

/-- What an accepted form says of each of its products. -/
structure FormularioAceito (db : Database) (eventId : Id) (recebidos : List ProductDto) : Prop where
  fotos : ∀ dto ∈ recebidos, ∃ fotos, validarFotos dto.images = .ok fotos
  produtos : ∀ dto ∈ recebidos, ∀ k, dto.id = some k →
    ∃ p ∈ db.produtosDoEvento eventId, p.id = k
  variantes : ∀ dto ∈ recebidos, ∀ p ∈ db.produtosDoEvento eventId, dto.id = some p.id →
    ∀ v ∈ dto.variants, ∀ id, v.id = some id → id ∈ p.variants.map EventProductVariant.id
  semItens : ∀ p ∈ db.produtosDoEvento eventId, (recebidos.any fun r => r.id = some p.id) = false →
    ∀ v ∈ p.variants, db.itensDaVariante v.id = 0
  varianteSemItens : ∀ dto ∈ recebidos, ∀ p ∈ db.produtosDoEvento eventId, dto.id = some p.id →
    ∀ v ∈ p.variants, (dto.variants.any fun r => r.id = some v.id) = false →
      db.itensDaVariante v.id = 0

/-- An accepted form is written, all of it. -/
theorem operacoesDeProdutos_eq_ok {ops : List OperacaoDeEdicao}
    (keys : (db.catalogue.products.map EventProduct.id).Nodup) (once : SemRepetir recebidos)
    (novos : UuidsNovos db recebidos)
    (ok : operacoesDeProdutos textos db eventId recebidos = .ok ops) :
    FormularioAceito db eventId recebidos ∧ ∃ nodup,
      db.gravarEdicao ops = .ok (db.comProdutos (db.escritos textos eventId recebidos) nodup) := by
  have keys_event : ((db.produtosDoEvento eventId).map EventProduct.id).Nodup :=
    keys.sublist (List.filter_sublist.map _)
  unfold operacoesDeProdutos at ok
  simp only [bind_eq_ok_iff, pure_eq_ok_iff] at ok
  obtain ⟨_, accepted, removidos, removed, gravados, written, rfl⟩ := ok
  obtain ⟨rfl, free⟩ := removerProdutos_eq_ok removed
  have each := mapM_eq_ok_iff.mp written
  have of_mem : ∀ dto ∈ recebidos, _ := fun dto mem =>
    gravarProduto_eq_ok (exists_of_forall₂ each mem).choose_spec
  have same : ∀ {k : Id} {atual p : EventProduct},
      ((db.produtosDoEvento eventId).find? fun p => p.id = k) = some atual →
      p ∈ db.produtosDoEvento eventId → p.id = k → p = atual := by
    rintro k atual p found p_mem rfl
    exact Option.some.inj ((find?_produto keys_event p_mem).symm.trans found)
  refine ⟨⟨fun dto mem => (of_mem dto mem).1, ?_, ?_, free, ?_⟩, ?_⟩
  · intro dto mem k is
    obtain ⟨atual, found, _⟩ := (of_mem dto mem).2 k is
    have named := List.find?_some found
    exact ⟨atual, List.mem_of_find?_eq_some found, of_decide_eq_true named⟩
  · intro dto mem p p_mem is
    obtain ⟨atual, found, known, _⟩ := (of_mem dto mem).2 p.id is
    rw [same found p_mem rfl]
    exact known
  · intro dto mem p p_mem is
    obtain ⟨atual, found, _, unsold⟩ := (of_mem dto mem).2 p.id is
    rw [same found p_mem rfl]
    exact unsold
  · -- the products that go, and then each product of the form
    obtain ⟨nodup₁, first⟩ := gravarEdicao_deleteProduct db (db.ausentes eventId recebidos)
      gravados.flatten db.catalogue.variants_nodup
      (fun id mem => (List.filter_sublist.map _).subset ((List.filter_sublist.map _).subset mem))
      (keys_event.sublist (List.filter_sublist.map _))
      (by
        intro p mem gone
        obtain ⟨q, q_mem, same_id⟩ := List.mem_map.mp gone
        obtain ⟨there, absent⟩ := List.mem_filter.mp q_mem
        obtain rfl := List.inj_on_of_nodup_map keys (List.mem_filter.mp there).1 mem same_id
        exact free q there (by simpa using absent))
    have ready : AEscrever (db.produtosDoEvento eventId) recebidos
        (db.catalogue.products.filter fun p => p.id ∉ db.ausentes eventId recebidos) := by
      refine ⟨keys.sublist (List.filter_sublist.map _), once.produtos, ?_, novos.uuids, ?_,
        novos.uuidsDasVariantes, ?_⟩
      · intro dto mem k atual is found
        have there := List.mem_of_find?_eq_some found
        have named := List.find?_some found
        refine List.mem_filter.mpr ⟨(List.mem_filter.mp there).1, decide_eq_true ?_⟩
        intro gone
        obtain ⟨q, q_mem, same_id⟩ := List.mem_map.mp gone
        have absent := (List.mem_filter.mp q_mem).2
        rw [same_id, of_decide_eq_true named, List.any_eq_true.mpr ⟨dto, mem, decide_eq_true is⟩]
          at absent
        cases absent
      · intro dto mem inside
        exact novos.produtos dto mem ((List.filter_sublist.map _).subset inside)
      · intro dto mem v v_mem inside
        obtain ⟨p, p_mem, w, w_mem, same_id⟩ := mem_idsDasVariantes.mp inside
        exact novos.variantes dto mem v v_mem
          (mem_idsDasVariantes.mpr ⟨p, (List.mem_filter.mp p_mem).1, w, w_mem, same_id⟩)
    obtain ⟨nodup₂, second⟩ := gravarEdicao_produtos
      (price_nonneg_of_validarProdutos accepted) each nodup₁ ready
    exact ⟨nodup₂, first.trans second⟩

/-! ### The products after the edit -/

theorem id_escrito (dto : ProductDto) (row : EventProduct) :
    (dto.escrito textos row).id = row.id := rfl

theorem uuid_fresh (novos : UuidsNovos db recebidos)
    (accepted : FormularioAceito db eventId recebidos) : ∀ dto ∈ recebidos,
    (dto.novo textos eventId).id ∉ recebidos.filterMap ProductDto.id := by
  intro dto mem inside
  obtain ⟨other, other_mem, is⟩ := List.mem_filterMap.mp inside
  obtain ⟨p, p_mem, same⟩ := accepted.produtos other other_mem _ is
  apply novos.produtos dto mem
  exact List.mem_map.mpr ⟨p, (List.mem_filter.mp p_mem).1, same⟩

/-- A product of the database that the form names is of the event. -/
theorem evento_of_submitted (keys : (db.catalogue.products.map EventProduct.id).Nodup)
    (accepted : FormularioAceito db eventId recebidos) {p : EventProduct}
    (mem : p ∈ db.catalogue.products) {dto : ProductDto} (dto_mem : dto ∈ recebidos)
    (is : dto.id = some p.id) : p.eventId = eventId := by
  obtain ⟨q, q_mem, same⟩ := accepted.produtos dto dto_mem p.id is
  obtain ⟨q_there, q_event⟩ := List.mem_filter.mp q_mem
  rw [← List.inj_on_of_nodup_map keys q_there mem same]
  exact of_decide_eq_true q_event

theorem escritos_eq (once : SemRepetir recebidos) (novos : UuidsNovos db recebidos)
    (accepted : FormularioAceito db eventId recebidos) :
    db.escritos textos eventId recebidos =
      (db.catalogue.products.filter fun p => p.id ∉ db.ausentes eventId recebidos).map
        (refreshed EventProduct.id ProductDto.id (ProductDto.escrito textos) recebidos) ++
      (recebidos.filter fun dto => dto.id.isNone).map (ProductDto.novo textos eventId) :=
  foldl_put id_escrito once.produtos (uuid_fresh novos accepted) _

theorem eventId_refreshed (p : EventProduct) :
    (refreshed EventProduct.id ProductDto.id (ProductDto.escrito textos) recebidos p).eventId =
      p.eventId := by
  unfold refreshed
  cases submitted EventProduct.id ProductDto.id recebidos p with
  | none => rfl
  | some dto => rfl

/-- The products of the event are the submitted ones. -/
theorem escritos_doEvento (textos : Textos) (once : SemRepetir recebidos)
    (novos : UuidsNovos db recebidos) (accepted : FormularioAceito db eventId recebidos) :
    ((db.escritos textos eventId recebidos).filter fun p => p.eventId = eventId) =
      sync EventProduct.id ProductDto.id (ProductDto.novo textos eventId)
        (ProductDto.escrito textos) (db.produtosDoEvento eventId) recebidos := by
  have created : (((recebidos.filter fun dto => dto.id.isNone).map
      (ProductDto.novo textos eventId)).filter fun p => p.eventId = eventId) =
        (recebidos.filter fun dto => dto.id.isNone).map (ProductDto.novo textos eventId) := by
    apply List.filter_eq_self.mpr
    intro p mem
    obtain ⟨dto, _, rfl⟩ := List.mem_map.mp mem
    exact decide_eq_true rfl
  have stay : ((db.catalogue.products.filter fun p =>
      p.id ∉ db.ausentes eventId recebidos).filter fun p => p.eventId = eventId) =
        kept EventProduct.id ProductDto.id (db.produtosDoEvento eventId) recebidos := by
    rw [List.filter_comm]
    apply List.filter_congr
    intro p mem
    rw [Bool.eq_iff_iff, decide_eq_true_eq]
    constructor
    · intro stays
      by_contra absent
      apply stays
      exact List.mem_map_of_mem (List.mem_filter.mpr ⟨mem, by simpa using absent⟩)
    · intro again gone
      obtain ⟨q, q_mem, same⟩ := List.mem_map.mp gone
      have absent := (List.mem_filter.mp q_mem).2
      rw [same, again] at absent
      cases absent
  unfold sync
  rw [foldl_put id_escrito once.produtos (uuid_fresh novos accepted), ← stay,
    escritos_eq once novos accepted, List.filter_append, created, List.filter_map]
  simp only [Function.comp_def, eventId_refreshed]

/-- The products of other events are as they were. -/
theorem escritos_outros (keys : (db.catalogue.products.map EventProduct.id).Nodup)
    (once : SemRepetir recebidos) (novos : UuidsNovos db recebidos)
    (accepted : FormularioAceito db eventId recebidos) :
    ((db.escritos textos eventId recebidos).filter fun p => p.eventId ≠ eventId) =
      db.catalogue.products.filter fun p => p.eventId ≠ eventId := by
  have created : (((recebidos.filter fun dto => dto.id.isNone).map
      (ProductDto.novo textos eventId)).filter fun p => p.eventId ≠ eventId) = [] := by
    apply List.filter_eq_nil_iff.mpr
    intro p mem
    obtain ⟨dto, _, rfl⟩ := List.mem_map.mp mem
    simp [ProductDto.novo]
  have stay : ((db.catalogue.products.filter fun p =>
      p.id ∉ db.ausentes eventId recebidos).filter fun p => p.eventId ≠ eventId) =
        db.catalogue.products.filter fun p => p.eventId ≠ eventId := by
    rw [List.filter_comm]
    apply List.filter_eq_self.mpr
    intro p mem
    apply decide_eq_true
    intro gone
    obtain ⟨q, q_mem, same⟩ := List.mem_map.mp gone
    obtain ⟨q_there, q_event⟩ := List.mem_filter.mp (List.mem_filter.mp q_mem).1
    obtain ⟨p_there, p_event⟩ := List.mem_filter.mp mem
    rw [List.inj_on_of_nodup_map keys q_there p_there same] at q_event
    exact of_decide_eq_true p_event (of_decide_eq_true q_event)
  rw [escritos_eq once novos accepted, List.filter_append, created, List.append_nil,
    List.filter_map]
  simp only [Function.comp_def, eventId_refreshed]
  rw [stay]
  conv_rhs => rw [← List.map_id (db.catalogue.products.filter fun p => p.eventId ≠ eventId)]
  apply List.map_congr_left
  intro p mem
  obtain ⟨p_there, p_event⟩ := List.mem_filter.mp mem
  unfold refreshed
  cases found : submitted EventProduct.id ProductDto.id recebidos p with
  | none => rfl
  | some dto =>
      obtain ⟨dto_mem, is⟩ := submitted_eq_some found
      exact absurd (evento_of_submitted keys accepted p_there dto_mem is)
        (of_decide_eq_true p_event)

/-- A variant of the form, as its row. -/
def ProductVariantDto.linha (textos : Textos) (doForm : Bool) (v : ProductVariantDto) :
    EventProductVariant where
  id := if doForm then v.id.getD v.uuid else v.uuid
  name := textos.trim v.name
  stock := v.stock.map Int.toNat

/-- The variants of a product that came with its id are the submitted ones. -/
theorem variants_escrito (textos : Textos) (once : SemRepetir recebidos)
    (novos : UuidsNovos db recebidos) (accepted : FormularioAceito db eventId recebidos)
    {dto : ProductDto} (mem : dto ∈ recebidos) {p : EventProduct}
    (p_mem : p ∈ db.produtosDoEvento eventId) (is : dto.id = some p.id) :
    (dto.escrito textos p).variants.Perm
      (dto.variants.map (ProductVariantDto.linha textos true)) := by
  have p_there := (List.mem_filter.mp p_mem).1
  have ids : ((dto.aparado textos).variants.filterMap ProductVariantDto.id).Nodup := by
    simpa [ProductDto.aparado, List.filterMap_map, Function.comp_def] using
      once.variantes dto mem
  have own : (p.variants.map EventProductVariant.id).Nodup := by
    obtain ⟨antes, depois, split⟩ := List.append_of_mem p_there
    have nodup : (idsDasVariantes db.catalogue.products).Nodup := db.catalogue.variants_nodup
    rw [split, idsDasVariantes_focus] at nodup
    exact (List.nodup_append.mp (List.nodup_append.mp nodup).2.1).1
  have known : ∀ v ∈ (dto.aparado textos).variants, ∀ id, v.id = some id →
      id ∈ p.variants.map EventProductVariant.id := by
    intro v v_mem id given
    obtain ⟨w, w_mem, rfl⟩ := List.mem_map.mp v_mem
    exact accepted.variantes dto mem p p_mem is w w_mem id given
  have fresh : ∀ v ∈ (dto.aparado textos).variants,
      (v.row v.uuid).id ∉ (dto.aparado textos).variants.filterMap ProductVariantDto.id := by
    intro v v_mem inside
    obtain ⟨other, other_mem, given⟩ := List.mem_filterMap.mp inside
    obtain ⟨w, w_mem, same⟩ := List.mem_map.mp (known other other_mem _ given)
    obtain ⟨u, u_mem, rfl⟩ := List.mem_map.mp v_mem
    exact novos.variantes dto mem u u_mem
      (mem_idsDasVariantes.mpr ⟨p, p_there, w, w_mem, same⟩)
  obtain ⟨order, perm, each⟩ := sync_forall₂ (fun v : ProductVariantDto => v.row v.uuid)
    (fun v row => v.row row.id) (fun _ _ => rfl) own ids known fresh
  have rows : (dto.escrito textos p).variants =
      order.map fun v => v.row (v.id.getD v.uuid) := by
    have related : List.Forall₂ (fun row (v : ProductVariantDto) => row = v.row (v.id.getD v.uuid))
        (dto.escrito textos p).variants order := by
      apply List.Forall₂.imp _ each
      rintro row v (⟨none_id, rfl⟩ | ⟨old, _, some_id, rfl⟩)
      · rw [none_id]
        rfl
      · rw [some_id]
        rfl
    have same := List.forall₂_map_right_iff.mpr related
    rw [List.forall₂_eq_eq_eq] at same
    exact same
  rw [rows]
  have submitted := perm.map fun v => v.row (v.id.getD v.uuid)
  simp only [ProductDto.aparado, List.map_map] at submitted
  exact submitted

/-- Each submitted product has its row. -/
theorem linhaDoProduto (keys : (db.catalogue.products.map EventProduct.id).Nodup)
    (valid : ∀ dto ∈ recebidos, 0 ≤ dto.price) (once : SemRepetir recebidos)
    (novos : UuidsNovos db recebidos) (accepted : FormularioAceito db eventId recebidos)
    {dto : ProductDto} (mem : dto ∈ recebidos) {row : EventProduct}
    (written : Written EventProduct.id ProductDto.id (ProductDto.novo textos eventId)
      (ProductDto.escrito textos) (db.produtosDoEvento eventId) row dto) :
    LinhaDoProduto textos eventId (db.produtosDoEvento eventId) dto row := by
  obtain ⟨fotos, photos⟩ := accepted.fotos dto mem
  have price : max 0 dto.price = dto.price := max_eq_right (valid dto mem)
  rcases written with ⟨is, rfl⟩ | ⟨p, p_mem, is, rfl⟩
  · refine ⟨by simp [is, ProductDto.novo], rfl, rfl, rfl, price, ⟨fotos, photos, ?_⟩, ?_⟩
    · simp [is, ProductDto.novo, fotos_of_validarFotos photos]
    · simp [is, ProductDto.novo, ProductDto.aparado, ProductVariantDto.row, Function.comp_def]
  · have event := of_decide_eq_true (List.mem_filter.mp p_mem).2
    have found := find?_produto (keys.sublist (List.filter_sublist.map _)) p_mem
    refine ⟨by rw [is]; rfl, event, rfl, rfl, price, ⟨fotos, photos, ?_⟩, ?_⟩
    · rw [is, Option.bind_some]
      unfold Database.produtosDoEvento at found ⊢
      rw [found]
      simp [ProductDto.escrito, fotos_of_validarFotos photos]
    · have variants := variants_escrito textos once novos accepted mem p_mem is
      simp only [is, Option.isSome_some]
      exact variants

/-- What an accepted form leaves. -/
theorem catalogoEnviado {ops : List OperacaoDeEdicao}
    (keys : (db.catalogue.products.map EventProduct.id).Nodup)
    (valid : validarProdutos textos recebidos = .ok ()) (once : SemRepetir recebidos)
    (novos : UuidsNovos db recebidos)
    (ok : operacoesDeProdutos textos db eventId recebidos = .ok ops) :
    ∃ depois, db.gravarEdicao ops = .ok depois ∧
      CatalogoEnviado textos db depois eventId recebidos := by
  obtain ⟨accepted, nodup, done⟩ := operacoesDeProdutos_eq_ok keys once novos ok
  refine ⟨_, done, ?_, escritos_outros keys once novos accepted, ?_, ⟨nodup, rfl⟩⟩
  · have known : ∀ dto ∈ recebidos, ∀ k, dto.id = some k →
        k ∈ (db.produtosDoEvento eventId).map EventProduct.id := by
      intro dto mem k is
      obtain ⟨p, p_mem, same⟩ := accepted.produtos dto mem k is
      exact List.mem_map.mpr ⟨p, p_mem, same⟩
    obtain ⟨ordem, perm, each⟩ := sync_forall₂ (ProductDto.novo textos eventId)
      (ProductDto.escrito textos) id_escrito (keys.sublist (List.filter_sublist.map _))
      once.produtos known (uuid_fresh novos accepted)
    refine ⟨ordem, perm, ?_⟩
    have rows := escritos_doEvento textos once novos accepted
    unfold Database.produtosDoEvento
    simp only [Database.comProdutos]
    rw [rows]
    apply forall₂_flip_of_mem each
    intro row dto mem written
    exact linhaDoProduto keys (price_nonneg_of_validarProdutos valid) once novos accepted
      (perm.mem_iff.mp mem) written
  · intro p mem v v_mem sold
    simp only [Database.comProdutos]
    by_cases event : p.eventId = eventId
    · have p_mem : p ∈ db.produtosDoEvento eventId :=
        List.mem_filter.mpr ⟨mem, decide_eq_true event⟩
      cases found : submitted EventProduct.id ProductDto.id recebidos p with
      | none =>
          -- a product that is not in the form has no item
          have absent : (recebidos.any fun r => r.id = some p.id) = false := by
            apply List.any_eq_false.mpr
            exact List.find?_eq_none.mp found
          rw [accepted.semItens p p_mem absent v v_mem] at sold
          exact absurd sold (lt_irrefl 0)
      | some dto =>
          obtain ⟨dto_mem, is⟩ := submitted_eq_some found
          refine ⟨dto.escrito textos p, ?_, rfl, ?_⟩
          · rw [escritos_eq once novos accepted]
            apply List.mem_append_left
            apply List.mem_map.mpr
            refine ⟨p, List.mem_filter.mpr ⟨mem, decide_eq_true ?_⟩, ?_⟩
            · intro gone
              obtain ⟨q, q_mem, same⟩ := List.mem_map.mp gone
              have absent := (List.mem_filter.mp q_mem).2
              rw [same, List.any_eq_true.mpr ⟨dto, dto_mem, decide_eq_true is⟩] at absent
              cases absent
            · simp [refreshed, found]
          · apply mem_map_foldl_put id_row
            apply List.mem_map_of_mem
            refine List.mem_filter.mpr ⟨v_mem, ?_⟩
            by_contra absent
            have unsold := accepted.varianteSemItens dto dto_mem p p_mem is v v_mem (by
              rw [← Bool.not_eq_true]
              simpa [ProductDto.aparado, List.any_map, Function.comp_def] using absent)
            rw [unsold] at sold
            exact absurd sold (lt_irrefl 0)
    · have still : p ∈ (db.escritos textos eventId recebidos).filter fun p =>
          p.eventId ≠ eventId := by
        rw [escritos_outros keys once novos accepted]
        exact List.mem_filter.mpr ⟨mem, decide_eq_true event⟩
      exact ⟨p, (List.mem_filter.mp still).1, rfl, List.mem_map_of_mem v_mem⟩

/-! ### Refusals -/

theorem recusa_of_gravarProduto {dto : ProductDto} {falha : Failure} (mem : dto ∈ recebidos)
    (refused : gravarProduto textos db eventId (db.produtosDoEvento eventId) dto = .error falha) :
    RecusaDeProdutos db eventId recebidos := by
  unfold gravarProduto at refused
  cases is : dto.id with
  | none =>
      simp only [is, bind_eq_error_iff] at refused
      rcases refused with photo | ⟨_, _, absent⟩
      · exact .fotoRecusada dto mem falha photo
      · cases absent
  | some id =>
      simp only [is, bind_eq_error_iff, orFail_eq_ok_iff] at refused
      rcases refused with foreign | ⟨atual, found, refused⟩
      · apply RecusaDeProdutos.produtoEstranho dto mem id is
        intro p p_mem same
        cases found : (db.produtosDoEvento eventId).find? fun p => p.id = id with
        | none => exact List.find?_eq_none.mp found p p_mem (decide_eq_true same)
        | some atual =>
            rw [found] at foreign
            cases foreign
      · have atual_mem := List.mem_of_find?_eq_some found
        have named := List.find?_some found
        have is_atual : dto.id = some atual.id := by rw [is, of_decide_eq_true named]
        rcases refused with photo | ⟨_, _, refused⟩
        · exact .fotoRecusada dto mem falha photo
        · rcases refused with sold | ⟨_, _, refused⟩
          · unfold removerVariantes at sold
            dsimp only at sold
            split at sold
            case h_1 v bought =>
                obtain ⟨v_mem, absent⟩ := List.mem_filter.mp (List.mem_of_find?_eq_some bought)
                have items := List.find?_some bought
                refine .varianteVendida dto mem atual atual_mem is_atual v v_mem ?_
                  (of_decide_eq_true items)
                intro w w_mem same
                simp only [Bool.not_eq_true', List.any_eq_false, decide_eq_true_eq] at absent
                exact absent w w_mem same
            case h_2 => cases sold
          · rcases refused with foreign | ⟨_, _, absent⟩
            · obtain ⟨v, v_mem, failed⟩ := mapM_eq_error foreign
              cases given : v.id with
              | none =>
                  simp only [given] at failed
                  cases failed
              | some variantId =>
                  simp only [given] at failed
                  split at failed
                  case isTrue => cases failed
                  case isFalse nowhere =>
                      refine .varianteEstranha dto mem atual atual_mem is_atual v v_mem variantId
                        given ?_
                      intro w w_mem same
                      exact nowhere (List.any_eq_true.mpr ⟨w, w_mem, decide_eq_true same⟩)
            · cases absent

theorem recusaDeProdutos {falha : Failure} (valid : validarProdutos textos recebidos = .ok ())
    (refused : operacoesDeProdutos textos db eventId recebidos = .error falha) :
    RecusaDeProdutos db eventId recebidos := by
  unfold operacoesDeProdutos at refused
  simp only [valid, bind_eq_error_iff, reduceCtorEq, false_or] at refused
  obtain ⟨_, _, refused⟩ := refused
  rcases refused with sold | ⟨_, _, refused⟩
  · unfold removerProdutos at sold
    dsimp only at sold
    split at sold
    case h_1 p bought =>
        obtain ⟨p_mem, absent⟩ := List.mem_filter.mp (List.mem_of_find?_eq_some bought)
        have items := List.find?_some bought
        obtain ⟨v, v_mem, some_item⟩ := List.any_eq_true.mp items
        refine .produtoVendido p p_mem ?_ v v_mem (of_decide_eq_true some_item)
        intro dto mem same
        simp only [Bool.not_eq_true', List.any_eq_false, decide_eq_true_eq] at absent
        exact absent dto mem same
    case h_2 => cases sold
  · rcases refused with one | ⟨_, _, absent⟩
    · obtain ⟨dto, mem, failed⟩ := mapM_eq_error one
      exact recusa_of_gravarProduto mem failed
    · cases absent

/-- The product diff of an accepted form: when it is not refused, the event has the products of the
form, and when it is, one of five reasons holds. -/
theorem operacoesDeProdutos_catalogo (textos : Textos) (db : Database) (eventId : Id)
    (recebidos : List ProductDto) (keys : (db.catalogue.products.map EventProduct.id).Nodup)
    (valid : validarProdutos textos recebidos = .ok ()) (once : SemRepetir recebidos)
    (novos : UuidsNovos db recebidos) :
    (∀ ops, operacoesDeProdutos textos db eventId recebidos = .ok ops →
      ∃ depois, db.gravarEdicao ops = .ok depois ∧
        CatalogoEnviado textos db depois eventId recebidos) ∧
      ∀ falha, operacoesDeProdutos textos db eventId recebidos = .error falha →
        RecusaDeProdutos db eventId recebidos :=
  ⟨fun _ => catalogoEnviado keys valid once novos, fun _ => recusaDeProdutos valid⟩

end Catalogo

/-! ### A shirt -/

namespace UmaCamiseta

theorem preco_nonneg : (0 : ℚ) ≤ 50 := by decide

def camiseta : EventProduct where
  id := 8
  eventId := 5
  name := "Camiseta"
  description := none
  price := 50
  price_nonneg := preco_nonneg
  images := []
  variants := [⟨9, "M", none⟩]

theorem camiseta_nodup : (idsDasVariantes [camiseta]).Nodup := by decide

theorem nada_nodup : (idsDasVariantes []).Nodup := List.nodup_nil

theorem semRoles_nodup :
    (([] : List GroupRoles).flatMap fun group => group.roles.map RolesRegistration.id).Nodup :=
  List.nodup_nil

theorem sem_payments : Keyed Payment.id 100 [] := Keyed.nil

theorem sem_itens :
    Keyed PaymentProductItem.id 100 (([] : List Payment).flatMap Payment.productItems) :=
  Keyed.nil

def vazio : Database where
  catalogue :=
    { churches := []
      configs := []
      users := []
      events := []
      groups := []
      discounts := []
      products := []
      roles_nodup := semRoles_nodup
      variants_nodup := nada_nodup }
  eventOnUsers := []
  waitlist := []
  payments := []
  nextId := 100
  payments_keyed := sem_payments
  items_keyed := sem_itens

def textos : Textos := ⟨id, id⟩

/-- The shirt in another size, and a new mug. -/
def formulario : List ProductDto :=
  [{ id := some 8, name := "Camiseta", description := none, price := 60, images := none
     variants := [⟨some 9, "G", some 3, 20⟩], uuid := 21 },
    { id := none, name := "Caneca", description := none, price := 30, images := none
      variants := [⟨none, "Única", none, 22⟩], uuid := 23 }]

/-- A mug with a photo that is no photo. -/
def comFotoRuim : List ProductDto :=
  [{ id := none, name := "Caneca", description := none, price := 30, images := some (some ["x"])
     variants := [⟨none, "Única", none, 22⟩], uuid := 23 }]

theorem operacoesDeProdutos_formulario :
    (∀ ops, operacoesDeProdutos textos (vazio.comProdutos [camiseta] camiseta_nodup) 5 formulario =
        .ok ops →
      ∃ depois, (vazio.comProdutos [camiseta] camiseta_nodup).gravarEdicao ops = .ok depois ∧
        CatalogoEnviado textos (vazio.comProdutos [camiseta] camiseta_nodup) depois 5 formulario) ∧
      ∀ falha,
        operacoesDeProdutos textos (vazio.comProdutos [camiseta] camiseta_nodup) 5 formulario =
          .error falha →
        RecusaDeProdutos (vazio.comProdutos [camiseta] camiseta_nodup) 5 formulario :=
  operacoesDeProdutos_catalogo textos _ 5 formulario (by decide) (by decide +kernel)
    ⟨by decide, by decide⟩ ⟨by decide, by decide, by decide, by decide⟩

/-- A photo is refused with no row in the database and no id in the form. -/
theorem not_recusa_por_id :
    validarProdutos textos comFotoRuim = .ok () ∧ SemRepetir comFotoRuim ∧
      (∀ dto ∈ comFotoRuim, dto.id = none ∧ ∀ v ∈ dto.variants, v.id = none) ∧
      vazio.catalogue.products = [] ∧
      operacoesDeProdutos textos vazio 5 comFotoRuim =
        .error (badRequest "A foto do produto precisa ser PNG, JPG ou WebP") :=
  ⟨by decide +kernel, ⟨by decide, by decide⟩, by decide, rfl, by decide +kernel⟩

end UmaCamiseta

end IccvBackend
