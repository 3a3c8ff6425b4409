/-
Module: IccvBackend.Proofs.CheckinStamps
Purpose: When the stamps of a check-in agree with its status and an undo gives back what was there.
Trusted boundary: none
Main exports: CheckinRow.Carimbada, Balcao.Carimbos, Balcao.VoltaAoQueEra, Balcao.DesfazChamado,
  carimbos_run_iff, not_carimbos_concluidoDaFila
-/
import IccvBackend.Proofs.Counter

namespace IccvBackend

open Lib

/-! ### The law -/

namespace CheckinRow

variable (r : CheckinRow)

/-- The stamps a status asks for. -/
structure Carimbada : Prop where
  pending : r.status = .pending → r.badgeDeliveredAt = none ∧ r.calledAt = none ∧ r.doneAt = none
  queued : r.status = .queued → r.badgeDeliveredAt ≠ none ∧ r.calledAt = none ∧ r.doneAt = none
  inProgress : r.status = .inProgress →
    r.badgeDeliveredAt ≠ none ∧ r.calledAt ≠ none ∧ r.doneAt = none
  done : r.status = .done → r.badgeDeliveredAt ≠ none ∧ r.doneAt ≠ none

/-- The status and the stamps. -/
def marcas : CheckinStatus × Option Instant × Option Id × Option Instant × Option Id ×
    Option Instant × Option Id :=
  (r.status, r.badgeDeliveredAt, r.badgeDeliveredById, r.calledAt, r.calledById, r.doneAt,
    r.doneById)

end CheckinRow

namespace Balcao

variable (textos : TextosDoBalcao)

def Carimbos (b : Balcao) : Prop := ∀ r ∈ b.checkins, r.Carimbada

/-- For each check-in whose status was last written by a call or a conclusion, the row before it. -/
abbrev Ultima := Id × Id → Option CheckinRow

def lembrar (ultima : Ultima) (b : Balcao) (acao : Acao) (_ : Balcao) : Ultima :=
  match b.feito? textos acao with
  | none => ultima
  | some (f, chave) =>
      Function.update ultima chave
        (if f = .chamou ∨ f = .concluiu then b.checkin? chave.1 chave.2 else none)

/-- An undo right after a call or a conclusion gives back the status and the stamps from before
it. -/
def VoltaAoQueEra (sh : Balcao × Ultima) (acao : Acao) : Prop :=
  ∀ userId eventId antes, sh.1.feito? textos acao = some (.desfez, userId, eventId) →
    sh.2 (userId, eventId) = some antes →
      ∃ r, (sh.1.step textos acao).checkin? userId eventId = some r ∧ r.marcas = antes.marcas

/-- No undo takes back the conclusion of a check-in that nobody had called. -/
def DesfazChamado (b : Balcao) (acao : Acao) : Prop :=
  ∀ userId eventId r, b.feito? textos acao = some (.desfez, userId, eventId) →
    b.checkin? userId eventId = some r → r.status = .done → r.calledAt ≠ none

end Balcao

/-! ### One row -/

namespace CheckinRow

variable {r r' : CheckinRow} {f : Balcao.Feito} {g : CheckinRow → CheckinRow}

/-- The stamps a status asks for, with who gave them. -/
structure Inteira (r : CheckinRow) : Prop extends r.Carimbada where
  semChamada : r.status = .pending ∨ r.status = .queued → r.calledById = none
  semFim : r.status ≠ .done → r.doneById = none
  semEntrega : r.status = .pending → r.badgeDeliveredById = none

theorem inteira_nova (userId eventId operatorId : Id) (agora : Instant) :
    (nova userId eventId operatorId agora).Inteira where
  pending := by simp [nova]
  queued := by simp [nova]
  inProgress := by simp [nova]
  done := by simp [nova]
  semChamada := by simp [nova]
  semFim := by simp [nova]
  semEntrega := by simp [nova]

theorem Inteira.comQuarto (inteira : r.Inteira) (autoBedroomId : Option Id) :
    (r.comQuarto autoBedroomId).Inteira :=
  ⟨⟨inteira.pending, inteira.queued, inteira.inProgress, inteira.done⟩, inteira.semChamada,
    inteira.semFim, inteira.semEntrega⟩

/-- An undo keeps the stamps exactly when it does not leave a call without its stamp. -/
theorem inteira_anterior (inteira : r.Inteira) (called : r.status = .done → r.calledAt ≠ none) :
    (r.anterior r.status).Inteira := by
  obtain ⟨⟨pending, queued, inProgress, done⟩, semChamada, semFim, semEntrega⟩ := inteira
  cases status : r.status <;>
    refine ⟨⟨?_, ?_, ?_, ?_⟩, ?_, ?_, ?_⟩ <;> simp_all [anterior]

theorem Inteira.grava (inteira : r.Inteira) (grava : Balcao.Grava f r.status g)
    (called : f = .desfez → r.status = .done → r.calledAt ≠ none) : (g r).Inteira := by
  obtain ⟨⟨pending, queued, inProgress, done⟩, semChamada, semFim, semEntrega⟩ := id inteira
  generalize status : r.status = before at grava
  cases grava with
  | entregou operatorId agora =>
      refine ⟨⟨?_, ?_, ?_, ?_⟩, ?_, ?_, ?_⟩ <;> simp_all [entregar]
  | chamou operatorId agora =>
      refine ⟨⟨?_, ?_, ?_, ?_⟩, ?_, ?_, ?_⟩ <;> simp_all [chamar]
  | concluiu operatorId agora notes esperado =>
      have delivered : r.badgeDeliveredAt ≠ none := by
        simp only [queueStatuses, List.mem_cons, List.not_mem_nil, or_false] at esperado
        rcases esperado with rfl | rfl
        · exact (queued status).1
        · exact (inProgress status).1
      refine ⟨⟨?_, ?_, ?_, ?_⟩, ?_, ?_, ?_⟩ <;> simp_all [concluir]
  | desfez => exact status ▸ inteira_anterior inteira (called rfl)
  | reverteu esperado =>
      refine ⟨⟨?_, ?_, ?_, ?_⟩, ?_, ?_, ?_⟩ <;> simp_all [reverter]

theorem anterior_congr (same : r.marcas = r'.marcas) :
    (r.anterior r.status).marcas = (r'.anterior r'.status).marcas := by
  simp only [marcas, Prod.mk.injEq] at same
  obtain ⟨status, badge, badgeBy, called, calledBy, done, doneBy⟩ := same
  rw [← status]
  cases before : r.status <;> simp [anterior, marcas, ← status, before, badge, badgeBy, called,
    calledBy, done, doneBy]

/-- An undo takes back a call. -/
theorem anterior_chamar (inteira : r.Inteira) (queued : r.status = .queued) (operatorId : Id)
    (agora : Instant) :
    ((r.chamar operatorId agora).anterior (r.chamar operatorId agora).status).marcas =
      r.marcas := by
  have called := (inteira.queued queued).2.1
  have by_ := inteira.semChamada (.inr queued)
  simp [chamar, anterior, marcas, queued, called, by_]

/-- An undo takes back the conclusion of a check-in that was called. -/
theorem anterior_concluir (inteira : r.Inteira) (waiting : r.status ∈ queueStatuses)
    (was : r.calledAt ≠ none) (operatorId : Id) (agora : Instant) (notes : Option String) :
    ((r.concluir operatorId agora notes).anterior
      (r.concluir operatorId agora notes).status).marcas = r.marcas := by
  have inProgress : r.status = .inProgress := by
    simp only [queueStatuses, List.mem_cons, List.not_mem_nil, or_false] at waiting
    rcases waiting with queued | inProgress
    · exact absurd (inteira.queued queued).2.1 was
    · exact inProgress
  have done := (inteira.inProgress inProgress).2.2
  have by_ := inteira.semFim (by simp [inProgress])
  simp [concluir, anterior, marcas, inProgress, done, by_]

end CheckinRow

/-! ### Runs -/

namespace Balcao

variable {textos : TextosDoBalcao}

/-- The stamps, and what an undo would give back of the check-ins last called or concluded. -/
structure Registrado (sh : Balcao × Ultima) : Prop where
  chaves : (sh.1.checkins.map CheckinRow.chave).Nodup
  inteiras : ∀ userId eventId r, sh.1.checkin? userId eventId = some r → r.Inteira
  voltam : ∀ userId eventId antes, sh.2 (userId, eventId) = some antes →
    ∃ r, sh.1.checkin? userId eventId = some r ∧
      ((r.status = .done → r.calledAt ≠ none) → (r.anterior r.status).marcas = antes.marcas)

theorem checkin?_of_mem {b : Balcao} (chaves : (b.checkins.map CheckinRow.chave).Nodup)
    {r : CheckinRow} (mem : r ∈ b.checkins) : b.checkin? r.userId r.eventId = some r :=
  (lookup_eq_some_iff chaves).mpr ⟨mem, rfl⟩

theorem Registrado.carimbos {sh : Balcao × Ultima} (registrado : Registrado sh) : sh.1.Carimbos :=
  fun _ mem => (registrado.inteiras _ _ _ (checkin?_of_mem registrado.chaves mem)).toCarimbada

/-- The history after a step that writes no status. -/
theorem lembrar_of_nada {b depois : Balcao} {ultima : Ultima} {acao : Acao}
    (nada : b.feito? textos acao = none) : lembrar textos ultima b acao depois = ultima := by
  simp only [lembrar, nada]

/-- A new row of the last bedroom leaves the stamps. -/
theorem Registrado.comQuarto {b : Balcao} {ultima : Ultima} (registrado : Registrado (b, ultima))
    (userId eventId : Id) (autoBedroomId : Option Id) :
    Registrado (b.atualizar userId eventId (.comQuarto autoBedroomId), ultima) := by
  have at_key := checkin?_atualizar (b := b) (chave_comQuarto autoBedroomId) userId eventId
  refine ⟨?_, fun u e r found => ?_, fun u e antes last => ?_⟩
  · rw [chaves_atualizar (chave_comQuarto _)]
    exact registrado.chaves
  · rw [at_key] at found
    split at found
    · obtain ⟨old, was, rfl⟩ := Option.map_eq_some_iff.mp found
      exact (registrado.inteiras _ _ old was).comQuarto _
    · exact registrado.inteiras u e r found
  · obtain ⟨r, found, back⟩ := registrado.voltam u e antes last
    rw [at_key]
    split
    · next here =>
        obtain ⟨rfl, rfl⟩ := Prod.mk.inj here
        have same : ((r.comQuarto autoBedroomId).anterior
            (r.comQuarto autoBedroomId).status).marcas =
            (r.anterior r.status).marcas := CheckinRow.anterior_congr rfl
        exact ⟨r.comQuarto autoBedroomId, by rw [found, Option.map_some],
          fun was => same.trans (back was)⟩
    · exact ⟨r, found, back⟩

/-- A write of a status keeps the law, and the history of the check-in it is on. -/
theorem Registrado.grava {b : Balcao} {ultima : Ultima} (registrado : Registrado (b, ultima))
    {userId eventId : Id} {r : CheckinRow} {f : Feito} {g : CheckinRow → CheckinRow}
    (found : b.checkin? userId eventId = some r) (grava : Grava f r.status g)
    (called : f = .desfez → r.status = .done → r.calledAt ≠ none) :
    Registrado (b.atualizar userId eventId g, Function.update ultima (userId, eventId)
      (if f = .chamou ∨ f = .concluiu then some r else none)) := by
  have inteira := registrado.inteiras userId eventId r found
  refine ⟨?_, fun u e row after => ?_, fun u e antes last => ?_⟩
  · rw [chaves_atualizar grava.chave]
    exact registrado.chaves
  · rw [checkin?_atualizar grava.chave] at after
    split at after
    · rw [found, Option.map_some] at after
      obtain rfl := Option.some.inj after
      exact inteira.grava grava called
    · exact registrado.inteiras u e row after
  · rw [checkin?_atualizar grava.chave]
    dsimp only at last
    by_cases here : (u, e) = (userId, eventId)
    · rw [if_pos here, found, Option.map_some]
      refine ⟨g r, rfl, fun was => ?_⟩
      rw [here, Function.update_self] at last
      split at last
      · next who =>
          obtain rfl := Option.some.inj last
          generalize status : r.status = before at grava
          cases grava with
          | chamou operatorId agora => exact CheckinRow.anterior_chamar inteira status _ _
          | concluiu operatorId agora notes esperado =>
              exact CheckinRow.anterior_concluir inteira (status ▸ esperado)
                (was rfl) operatorId agora notes
          | _ => simp at who
      · cases last
    · rw [if_neg here]
      rw [Function.update_of_ne here] at last
      exact registrado.voltam u e antes last

theorem Registrado.step {sh : Balcao × Ultima} (registrado : Registrado sh) {acao : Acao}
    (guard : DesfazChamado textos sh.1 acao) :
    Registrado (withHistory (step textos) (lembrar textos) sh acao) := by
  obtain ⟨b, ultima⟩ := sh
  rcases step_cases textos b acao with ⟨chamadas, same, nada, _⟩ |
    ⟨i, agora, empate, c, rfl, at_i, mudanca, same, feito⟩
  · simp only [withHistory, lembrar_of_nada nada, same]
    exact ⟨registrado.chaves, registrado.inteiras, registrado.voltam⟩
  · simp only [withHistory, same]
    -- the calls are no part of the law
    suffices Registrado ((b.avancar textos c agora empate).1,
        lembrar textos ultima b (.avancar i agora empate) b) from
      ⟨this.chaves, this.inteiras, this.voltam⟩
    simp only [lembrar, feito]
    unfold DesfazChamado at guard
    rw [feito] at guard
    generalize (b.avancar textos c agora empate).1 = depois at mudanca
    generalize (b.avancar textos c agora empate).2 = ponto at mudanca feito guard
    have chaves := mudanca.chaves registrado.chaves
    cases mudanca with
    | leu nada livre segue =>
        rw [nada]
        exact registrado
    | criou userId agora de livre =>
        rw [de]
        have added : ∀ u e, (u, e) ≠ (userId, c.eventId) → ∀ r : CheckinRow,
            Balcao.checkin? { b with checkins := b.checkins ++
              [.nova userId c.eventId c.operatorId agora] } u e = some r →
              b.checkin? u e = some r := by
          intro u e other r found
          obtain ⟨mem, named⟩ := (lookup_eq_some_iff chaves).mp found
          rcases List.mem_append.mp mem with old | new
          · exact (lookup_eq_some_iff registrado.chaves).mpr ⟨old, named⟩
          · obtain rfl := List.mem_singleton.mp new
            exact absurd named.symm other
        have kept : ∀ u e (r : CheckinRow), b.checkin? u e = some r →
            Balcao.checkin? { b with checkins := b.checkins ++
              [.nova userId c.eventId c.operatorId agora] } u e = some r := by
          intro u e r found
          obtain ⟨mem, named⟩ := (lookup_eq_some_iff registrado.chaves).mp found
          exact (lookup_eq_some_iff chaves).mpr ⟨List.mem_append_left _ mem, named⟩
        refine ⟨chaves, fun u e r found => ?_, fun u e antes last => ?_⟩
        · obtain ⟨mem, _⟩ := (lookup_eq_some_iff chaves).mp found
          rcases List.mem_append.mp mem with old | new
          · exact registrado.inteiras _ _ r (checkin?_of_mem registrado.chaves old)
          · obtain rfl := List.mem_singleton.mp new
            exact CheckinRow.inteira_nova _ _ _ _
        · by_cases here : (u, e) = (userId, c.eventId)
          · simp [feitoDe, here] at last
          · simp only [feitoDe, Option.map_some] at last
            rw [Function.update_of_ne here] at last
            obtain ⟨r, found, back⟩ := registrado.voltam u e antes last
            exact ⟨r, kept u e r found, back⟩
    | gravou of_feito achado grava lido solta segue =>
        rw [of_feito] at guard ⊢
        simp only [Option.map_some, achado]
        refine registrado.grava achado grava fun undone => ?_
        exact guard _ _ _ (by rw [undone]; rfl) achado
    | ocupou userId quarto quartos de cabe nova =>
        rw [de]
        exact ⟨registrado.chaves, registrado.inteiras, registrado.voltam⟩
    | registrou userId bedroomId de =>
        rw [de]
        exact registrado.comQuarto _ _ _
    | liberou userId bedroomId de =>
        rw [de]
        exact ⟨registrado.chaves, registrado.inteiras, registrado.voltam⟩
    | limpou userId de =>
        rw [de]
        exact registrado.comQuarto _ _ _

/-- An undo that leaves the stamps right took back a check-in that had been called. -/
theorem desfazChamado_of_carimbos {sh : Balcao × Ultima} (registrado : Registrado sh) {acao : Acao}
    (after : (sh.1.step textos acao).Carimbos) : DesfazChamado textos sh.1 acao := by
  obtain ⟨b, ultima⟩ := sh
  intro userId eventId r undone found done uncalled
  rcases step_cases textos b acao with ⟨_, _, nada, _⟩ |
    ⟨i, agora, empate, c, rfl, at_i, mudanca, same, feito⟩
  · rw [nada] at undone
    cases undone
  · rw [feito] at undone
    obtain ⟨⟨f, u⟩, of_feito, is⟩ := Option.map_eq_some_iff.mp undone
    obtain ⟨rfl, rfl, rfl⟩ : f = .desfez ∧ u = userId ∧ c.eventId = eventId := by simpa using is
    have chaves := mudanca.chaves registrado.chaves
    rw [same] at after
    generalize (b.avancar textos c agora empate).1 = depois at mudanca after chaves
    generalize (b.avancar textos c agora empate).2 = ponto at mudanca of_feito
    cases mudanca with
    | leu nada livre segue =>
        rw [nada] at of_feito
        cases of_feito
    | gravou of_feito' achado grava lido solta segue =>
        obtain ⟨rfl, rfl⟩ := Prod.mk.inj (Option.some.inj (of_feito.symm.trans of_feito'))
        obtain rfl := Option.some.inj (found.symm.trans achado)
        have undone_row : (b.atualizar u c.eventId (.anterior r.status)).checkin? u c.eventId =
            some (r.anterior r.status) := by
          rw [checkin?_atualizar (Grava.desfez r.status).chave, if_pos rfl, found, Option.map_some]
        generalize status : r.status = before at grava
        cases grava with
        | desfez =>
            rw [status] at undone_row
            have mem := ((lookup_eq_some_iff chaves).mp undone_row).1
            obtain rfl : before = .done := status.symm.trans done
            exact ((after _ mem).inProgress rfl).2.1 uncalled
    | _ => simp_all [feitoDe]

/-- What the history says comes back. -/
theorem Registrado.volta {sh : Balcao × Ultima} (registrado : Registrado sh) {acao : Acao}
    (guard : DesfazChamado textos sh.1 acao) : VoltaAoQueEra textos sh acao := by
  obtain ⟨b, ultima⟩ := sh
  intro userId eventId antes undone last
  obtain ⟨r, found, back⟩ := registrado.voltam userId eventId antes last
  have was := guard userId eventId r undone found
  rcases step_cases textos b acao with ⟨_, _, nada, _⟩ |
    ⟨i, agora, empate, c, rfl, at_i, mudanca, same, feito⟩
  · rw [nada] at undone
    cases undone
  · rw [feito] at undone
    obtain ⟨⟨f, u⟩, of_feito, is⟩ := Option.map_eq_some_iff.mp undone
    obtain ⟨rfl, rfl, rfl⟩ : f = .desfez ∧ u = userId ∧ c.eventId = eventId := by simpa using is
    rw [same]
    suffices ∃ row, (b.avancar textos c agora empate).1.checkin? u c.eventId = some row ∧
        row.marcas = antes.marcas from this
    generalize (b.avancar textos c agora empate).1 = depois at mudanca
    generalize (b.avancar textos c agora empate).2 = ponto at mudanca of_feito
    cases mudanca with
    | leu nada livre segue =>
        rw [nada] at of_feito
        cases of_feito
    | gravou of_feito' achado grava lido solta segue =>
        obtain ⟨rfl, rfl⟩ := Prod.mk.inj (Option.some.inj (of_feito.symm.trans of_feito'))
        obtain rfl := Option.some.inj (found.symm.trans achado)
        refine ⟨_, by rw [checkin?_atualizar grava.chave, if_pos rfl, found, Option.map_some], ?_⟩
        rw [← back was]
        generalize r.status = before at grava
        cases grava
        rfl
    | _ => simp_all [feitoDe]

end Balcao

/-- In a run from a counter without check-ins, the stamps agree with the statuses in every state and
an undo right after a call or a conclusion gives back what there was, exactly when no undo takes
back the conclusion of a check-in nobody had called. -/
theorem carimbos_run_iff (textos : TextosDoBalcao) {b : Balcao} (vazio : b.checkins = [])
    (acoes : List Balcao.Acao) :
    (Always (withHistory (Balcao.step textos) (Balcao.lembrar textos)) (fun sh => sh.1.Carimbos)
        (b, fun _ => none) acoes ∧
      EachStep (withHistory (Balcao.step textos) (Balcao.lembrar textos))
        (Balcao.VoltaAoQueEra textos) (b, fun _ => none) acoes) ↔
      EachStep (Balcao.step textos) (Balcao.DesfazChamado textos) b acoes := by
  have start : Balcao.Registrado (b, fun _ => none) := by
    refine ⟨by simp [vazio], fun u e r found => ?_, fun _ _ _ last => by cases last⟩
    simp [Balcao.checkin?, vazio, lookup] at found
  have guarded : EachStep (withHistory (Balcao.step textos) (Balcao.lembrar textos))
      (fun sh a => Balcao.DesfazChamado textos sh.1 a) (b, fun _ => none) acoes ↔
        EachStep (Balcao.step textos) (Balcao.DesfazChamado textos) b acoes :=
    eachStep_withHistory (b, fun _ => none)
  constructor
  · rintro ⟨carimbos, _⟩
    exact guarded.mp ((always_iff_eachStep_of_invariant (I := Balcao.Registrado)
      (fun _ registrado => registrado.carimbos) (fun _ _ registrado guard => registrado.step guard)
      (fun _ _ registrado after => Balcao.desfazChamado_of_carimbos registrado after) start).mp
      carimbos)
  · intro called
    have registrado := always_of_eachStep (P := Balcao.Registrado)
      (G := fun sh a => Balcao.DesfazChamado textos sh.1 a)
      (fun _ _ registrado guard => registrado.step guard) start (guarded.mpr called)
    exact ⟨registrado.mono fun _ registrado => registrado.carimbos,
      eachStep_of_always (fun _ _ registrado guard => registrado.volta guard) registrado
        (guarded.mpr called)⟩

namespace ConcluidoDaFila

open DoisInscritos

/-- The badge of 1 is delivered, the photo is taken without a call, and the conclusion undone. -/
def acoes : List Balcao.Acao :=
  [pedir (.deliverBadge 1), passo 0, passo 0, passo 0, passo 0, passo 0, passo 0,
    pedir (.complete 1 none), passo 1, pedir (.undo 1), passo 2, passo 2]

/-- The check-in is in progress, and nobody called the participant. -/
theorem semChamado :
    ¬ (runFrom (Balcao.step textos) inicio acoes).Carimbos := by
  intro carimbos
  have row : (runFrom (Balcao.step textos) inicio acoes).checkins =
      [{ userId := 1, eventId := 5, status := .inProgress, autoBedroomId := some 50,
         badgeDeliveredAt := some 1000, badgeDeliveredById := some 9, calledAt := none,
         calledById := none, doneAt := none, doneById := none, notes := none }] := by
    decide +kernel
  have stamped := carimbos _ (row ▸ List.mem_singleton_self _)
  exact (stamped.inProgress rfl).2.1 rfl

end ConcluidoDaFila

theorem not_carimbos_concluidoDaFila :
    ¬ Always (Balcao.step DoisInscritos.textos) Balcao.Carimbos DoisInscritos.inicio
      ConcluidoDaFila.acoes :=
  fun always => ConcluidoDaFila.semChamado always.last

/-- In that run the check-in that is undone was concluded without a call. -/
theorem carimbos_run_iff_concluidoDaFila :
    ¬ EachStep (Balcao.step DoisInscritos.textos) (Balcao.DesfazChamado DoisInscritos.textos)
      DoisInscritos.inicio ConcluidoDaFila.acoes := by
  intro chamado
  have fim := ((carimbos_run_iff DoisInscritos.textos rfl ConcluidoDaFila.acoes).mpr chamado).1.last
  rw [runFrom_withHistory] at fim
  exact ConcluidoDaFila.semChamado fim

end IccvBackend
