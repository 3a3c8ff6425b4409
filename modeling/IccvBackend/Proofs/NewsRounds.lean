/-
Module: IccvBackend.Proofs.NewsRounds
Purpose: When the rounds of a news item reach each WhatsApp group once, and say so.
Trusted boundary: none
Main exports: Divulgacao.RodadaCerta, Divulgacao.SemRepetir, Divulgacao.rodadas_certas_iff
-/
import IccvBackend.News.Whatsapp

namespace IccvBackend

open Lib

/-! ### What a round is for -/

/-- The group the link of a destination leads to. -/
def Rede.alvo (rede : Rede) (destino : Destino) : Option Jid :=
  if Envio.semLink? destino then none
  else (rede.resolveGroupIdFromInvite destino.chave).toOption

/-- The group a destination reaches, if its message is accepted. -/
def Rede.alcance (rede : Rede) (destino : Destino) : Option Jid :=
  (rede.alvo destino).filter fun _ => (rede.sendToGroup destino.chave).toOption.isSome

/-- The row says the message was accepted. -/
def Destino.Enviado (destino : Destino) : Prop :=
  destino.resultado.error = none ∧ destino.resultado.sentAt.isSome = true

namespace Divulgacao

/-- The destinations a round goes through; without a church there is no number to send from. -/
def tentativas (rede : Rede) (origem : NewsDispatchOrigin) (d : Divulgacao) : List Destino :=
  if d.churchId.isNone then [] else d.tentados rede origem

/-- `sent + failed + noLink`. -/
def soma (contas : Nat × Nat × Nat) : Nat := contas.1 + contas.2.1 + contas.2.2

/-- A round sends once to each group, a publication to none that was reached before, it counts its
attempts, and each destination says whether its group got the message. -/
def RodadaCerta (d : Divulgacao) : Acao → Prop
  | .disparar rede origem agora =>
      ∃ novas, (d.disparaNoWhatsapp rede origem agora).1.aceitas = d.aceitas ++ novas ∧
        novas.Nodup ∧
        (origem = .publish → ∀ jid ∈ novas, jid ∉ d.aceitas) ∧
        soma (d.disparaNoWhatsapp rede origem agora).2 = (d.tentativas rede origem).length ∧
        ∀ destino ∈ d.tentativas rede origem,
          ∃ row ∈ (d.disparaNoWhatsapp rede origem agora).1.destinos.lista rede.trim,
            row.chave = destino.chave ∧ (row.Enviado ↔ ∃ jid ∈ novas, rede.alvo destino = some jid)
  | .editar _ => True

/-- The failure of a destination among others: the link failed with a text, or the sending did, with
a text exactly when no later destination reaches the group. -/
def FalhaDita (rede : Rede) (antes : List Destino) (destino : Destino) (depois : List Destino) :
    Prop :=
  Envio.semLink? destino = false →
    match rede.resolveGroupIdFromInvite destino.chave with
    | .error motivo => motivo ≠ ""
    | .ok jid => ∀ motivo, rede.sendToGroup destino.chave = .error motivo →
        (∀ other ∈ antes, rede.alcance other ≠ some jid) →
          (motivo = "" ↔ ∃ other ∈ depois, rede.alcance other = some jid)

/-- In a publication no destination that is not marked reaches a group with the message, and no
sending that fails is made good by another destination of the round. -/
def SemRepetir (d : Divulgacao) : Acao → Prop
  | .disparar rede origem _ =>
      (origem = .publish → ∀ destino ∈ d.tentativas rede origem, ∀ jid ∈ d.aceitas,
        rede.alcance destino ≠ some jid) ∧
      ∀ antes destino depois, d.tentativas rede origem = antes ++ destino :: depois →
        FalhaDita rede antes destino depois
  | .editar _ => True

end Divulgacao

/-! ### One turn -/

namespace Envio

variable {rede : Rede} {agora : Instant} {e : Envio} {destino : Destino}

/-- What a turn writes to its destination. -/
def motivo (rede : Rede) (atendidos : List Jid) (destino : Destino) : Option String :=
  if semLink? destino then some "O grupo não tem link de WhatsApp preenchido."
  else
    match rede.resolveGroupIdFromInvite destino.chave with
    | .error motivo => some motivo
    | .ok jid =>
        if jid ∈ atendidos then none
        else
          match rede.sendToGroup destino.chave with
          | .error motivo => some motivo
          | .ok () => none

/-- The group a turn sends to. -/
def nova (rede : Rede) (atendidos : List Jid) (destino : Destino) : List Jid :=
  ((rede.alcance destino).filter fun jid => jid ∉ atendidos).toList

/-- What a turn does. -/
structure Tentou (rede : Rede) (agora : Instant) (destino : Destino) (e depois : Envio) : Prop where
  destinos : depois.divulgacao.destinos =
    e.divulgacao.destinos.marca agora destino.chave (motivo rede e.jidsAtendidos destino)
  aceitas : depois.divulgacao.aceitas =
    e.divulgacao.aceitas ++ nova rede e.jidsAtendidos destino
  atendidos : depois.jidsAtendidos = e.jidsAtendidos ++ nova rede e.jidsAtendidos destino

section Volta

variable (rede : Rede) (agora : Instant) (e : Envio) (destino : Destino)

theorem tentou : Tentou rede agora destino e (e.tentar rede agora destino) := by
  unfold tentar
  by_cases sem : semLink? destino = true
  · rw [if_pos sem]
    constructor <;> simp [motivo, nova, Rede.alcance, Rede.alvo, sem, marcar]
  · rw [if_neg sem]
    cases resolved : rede.resolveGroupIdFromInvite destino.chave with
    | error texto =>
        constructor <;>
          simp [motivo, nova, Rede.alcance, Rede.alvo, sem, marcar, falhar, resolved,
            Except.toOption]
    | ok jid =>
        by_cases attended : jid ∈ e.jidsAtendidos
        · cases sent : rede.sendToGroup destino.chave <;> constructor <;>
            simp [motivo, nova, Rede.alcance, Rede.alvo, sem, marcar, resolved, attended, sent,
              Except.toOption, Option.filter]
        · cases sent : rede.sendToGroup destino.chave <;> constructor <;>
            simp [motivo, nova, Rede.alcance, Rede.alvo, sem, marcar, falhar, resolved, attended,
              sent, Except.toOption, Option.filter]

def contadas : Nat := e.enviados + e.falhas + e.semLink

/-- Every turn counts one. -/
theorem contadas_tentar : (e.tentar rede agora destino).contadas = e.contadas + 1 := by
  unfold tentar
  split
  · simp only [contadas, marcar]
    omega
  · split
    · simp only [contadas, marcar, falhar]
      omega
    · split
      · simp only [contadas, marcar]
        omega
      · split
        · simp only [contadas, marcar, falhar]
          omega
        · simp only [contadas, marcar]
          omega

end Volta

/-! ### The loop -/

/-- The turns of some destinations. -/
def percorrer (rede : Rede) (agora : Instant) (e : Envio) (destinos : List Destino) : Envio :=
  destinos.foldl (tentar rede agora) e

section Percurso

variable {destinos : List Destino}

theorem contadas_percorrer :
    (e.percorrer rede agora destinos).contadas = e.contadas + destinos.length := by
  induction destinos generalizing e with
  | nil => rfl
  | cons destino destinos ih =>
      change ((e.tentar rede agora destino).percorrer rede agora destinos).contadas = _
      rw [ih, contadas_tentar, List.length_cons]
      omega

theorem mem_nova {atendidos : List Jid} {jid : Jid} :
    jid ∈ nova rede atendidos destino ↔ rede.alcance destino = some jid ∧ jid ∉ atendidos := by
  unfold nova
  rw [Option.mem_toList, Option.filter_eq_some_iff, decide_eq_true_eq]

theorem nodup_nova (rede : Rede) (atendidos : List Jid) (destino : Destino) :
    (nova rede atendidos destino).Nodup := by
  unfold nova
  cases (rede.alcance destino).filter fun jid => jid ∉ atendidos with
  | none => exact List.nodup_nil
  | some jid => exact List.nodup_singleton jid

/-- The messages of a loop: one to each group that some destination reaches, and that was not yet
attended. -/
theorem novas_percorrer (rede : Rede) (agora : Instant) (e : Envio) (destinos : List Destino) :
    ∃ novas, (e.percorrer rede agora destinos).divulgacao.aceitas =
        e.divulgacao.aceitas ++ novas ∧
      (e.percorrer rede agora destinos).jidsAtendidos = e.jidsAtendidos ++ novas ∧ novas.Nodup ∧
      ∀ jid, jid ∈ novas ↔
        jid ∉ e.jidsAtendidos ∧ ∃ destino ∈ destinos, rede.alcance destino = some jid := by
  induction destinos generalizing e with
  | nil => exact ⟨[], by simp [percorrer]⟩
  | cons destino destinos ih =>
      have turn := tentou rede agora e destino
      obtain ⟨novas, aceitas, atendidos, nodup, reached⟩ := ih (e.tentar rede agora destino)
      refine ⟨nova rede e.jidsAtendidos destino ++ novas, ?_, ?_, ?_, fun jid => ?_⟩
      · rw [← List.append_assoc, ← turn.aceitas]
        exact aceitas
      · rw [← List.append_assoc, ← turn.atendidos]
        exact atendidos
      · apply List.nodup_append.mpr
        refine ⟨nodup_nova rede _ destino, nodup, ?_⟩
        rintro jid here _ later rfl
        apply ((reached jid).mp later).1
        rw [turn.atendidos]
        exact List.mem_append_right _ here
      · rw [List.mem_append, mem_nova, reached, turn.atendidos, List.mem_append, mem_nova]
        simp only [List.mem_cons, exists_eq_or_imp]
        by_cases first : rede.alcance destino = some jid
        · simp [first]
        · simp [first]

/-! ### Marks -/

theorem lista_marca (trim : String → String) (d : Destinos) (chave : ChaveDoDestino)
    (texto : Option String) :
    (d.marca agora chave texto).lista trim = (d.lista trim).map fun row =>
      if row.chave = chave then { row with resultado := row.resultado.comMotivo agora texto }
      else row := by
  unfold Destinos.marca
  cases chave with
  | grupo groupRoleId =>
      simp only [Destinos.lista, Destinos.marcaGrupo, updateKey, List.map_append, List.map_map]
      apply congrArg₂ (· ++ ·)
      · apply List.map_congr_left
        intro row _
        by_cases same : row.groupRoleId = groupRoleId
        · simp [NewsOnGroupRoles.destino, NewsOnGroupRoles.marcado, same]
        · simp [NewsOnGroupRoles.destino, same]
      · apply List.map_congr_left
        intro row _
        simp [NewsGroupLink.destino]
  | avulso id =>
      simp only [Destinos.lista, Destinos.marcaLink, updateKey, List.map_append, List.map_map]
      apply congrArg₂ (· ++ ·)
      · apply List.map_congr_left
        intro row _
        simp [NewsOnGroupRoles.destino]
      · apply List.map_congr_left
        intro row _
        by_cases same : row.id = id
        · simp [NewsGroupLink.destino, NewsGroupLink.marcado, same]
        · simp [NewsGroupLink.destino, same]

theorem lista_tentar (trim : String → String) (e : Envio) (destino : Destino) :
    (e.tentar rede agora destino).divulgacao.destinos.lista trim =
      (e.divulgacao.destinos.lista trim).map fun row =>
        if row.chave = destino.chave then
          { row with
            resultado := row.resultado.comMotivo agora (motivo rede e.jidsAtendidos destino) }
        else row := by
  rw [(tentou rede agora e destino).destinos, lista_marca]

/-- The loop leaves the rows of the other destinations. -/
theorem mem_percorrer_of_other (trim : String → String) {row : Destino}
    (mem : row ∈ e.divulgacao.destinos.lista trim)
    (other : ∀ destino ∈ destinos, row.chave ≠ destino.chave) :
    row ∈ (e.percorrer rede agora destinos).divulgacao.destinos.lista trim := by
  induction destinos generalizing e with
  | nil => exact mem
  | cons destino destinos ih =>
      apply ih _ fun later later_mem => other later (List.mem_cons_of_mem _ later_mem)
      rw [lista_tentar]
      exact List.mem_map.mpr ⟨row, mem, if_neg (other destino List.mem_cons_self)⟩

variable (rede agora e) in
/-- Each destination is left with the mark of its own turn. -/
theorem mem_percorrer (trim : String → String) {antes depois : List Destino}
    (mem : destino ∈ e.divulgacao.destinos.lista trim)
    (chaves : ((antes ++ destino :: depois).map Destino.chave).Nodup) :
    { destino with
      resultado := destino.resultado.comMotivo agora
        (motivo rede (e.percorrer rede agora antes).jidsAtendidos destino) } ∈
      (e.percorrer rede agora (antes ++ destino :: depois)).divulgacao.destinos.lista trim := by
  have split : e.percorrer rede agora (antes ++ destino :: depois) =
      ((e.percorrer rede agora antes).tentar rede agora destino).percorrer rede agora depois :=
    List.foldl_append
  rw [List.map_append, List.map_cons, List.nodup_append, List.nodup_cons] at chaves
  obtain ⟨_, ⟨not_later, _⟩, not_before⟩ := chaves
  rw [split]
  apply mem_percorrer_of_other
  · rw [lista_tentar]
    refine List.mem_map.mpr ⟨destino, mem_percorrer_of_other trim mem ?_, if_pos rfl⟩
    intro other other_mem same
    exact not_before _ (List.mem_map_of_mem other_mem) _ List.mem_cons_self same.symm
  · intro other other_mem same
    have same : destino.chave = other.chave := same
    rw [same] at not_later
    exact not_later (List.mem_map_of_mem other_mem)

/-- A row marked without a reason says it was sent, and no other does. -/
theorem enviado_comMotivo (destino : Destino) (texto : Option String) :
    ({ destino with resultado := destino.resultado.comMotivo agora texto } : Destino).Enviado ↔
      ∀ t ∈ texto, t = "" := by
  unfold Destino.Enviado ResultadoGravado.comMotivo
  cases texto with
  | none => simp
  | some texto =>
      by_cases empty : texto = ""
      · simp [empty, Option.filter]
      · simp [empty, Option.filter]

end Percurso

end Envio

/-! ### One round -/

namespace Divulgacao

variable {rede : Rede} {origem : NewsDispatchOrigin} {agora : Instant} {d : Divulgacao}

theorem rodada_eq (rede : Rede) (origem : NewsDispatchOrigin) (agora : Instant) (d : Divulgacao) :
    d.rodada rede origem agora =
      (Envio.inicio d).percorrer rede agora (d.tentados rede origem) := by
  unfold rodada Envio.percorrer tentados
  rw [List.foldl_filter]
  congr 1
  funext e destino
  cases pula origem destino <;> rfl

/-- A round is the loop over its attempts, and a line of the history. -/
theorem disparaNoWhatsapp_eq (rede : Rede) (origem : NewsDispatchOrigin) (agora : Instant)
    (d : Divulgacao) :
    let fim := (Envio.inicio d).percorrer rede agora (d.tentativas rede origem)
    (d.disparaNoWhatsapp rede origem agora).1.aceitas = fim.divulgacao.aceitas ∧
      (d.disparaNoWhatsapp rede origem agora).1.destinos = fim.divulgacao.destinos ∧
      soma (d.disparaNoWhatsapp rede origem agora).2 = fim.contadas := by
  unfold disparaNoWhatsapp tentativas
  cases d.churchId with
  | none => exact ⟨rfl, rfl, rfl⟩
  | some churchId =>
      simp only [Option.isNone_some, Bool.false_eq_true, if_false, rodada_eq]
      split <;> exact ⟨rfl, rfl, rfl⟩

theorem chaves_lista (trim : String → String) (d : Destinos) :
    ((d.lista trim).map Destino.chave).Nodup := by
  unfold Destinos.lista
  rw [List.map_append, List.map_map, List.map_map]
  apply List.nodup_append.mpr
  refine ⟨?_, ?_, ?_⟩
  · change (d.groups.map fun row => ChaveDoDestino.grupo row.groupRoleId).Nodup
    have nodup := d.groups_nodup.map (f := ChaveDoDestino.grupo) fun _ _ same => by injection same
    rwa [List.map_map] at nodup
  · change (d.groupLinks.map fun row => ChaveDoDestino.avulso row.id).Nodup
    have nodup := d.groupLinks_nodup.map (f := ChaveDoDestino.avulso)
      fun _ _ same => by injection same
    rwa [List.map_map] at nodup
  · intro chave here other there
    obtain ⟨row, _, rfl⟩ := List.mem_map.mp here
    obtain ⟨row', _, rfl⟩ := List.mem_map.mp there
    simp [NewsOnGroupRoles.destino, NewsGroupLink.destino]

theorem tentativas_sublist (rede : Rede) (origem : NewsDispatchOrigin) (d : Divulgacao) :
    (d.tentativas rede origem).Sublist (d.destinos.lista rede.trim) := by
  unfold tentativas tentados
  split
  · exact List.nil_sublist _
  · exact List.filter_sublist

/-- After a round, the row of a destination says its group got the message exactly when its failure
is told. -/
theorem enviado_iff_falhaDita {antes depois : List Destino} {destino : Destino} {novas : List Jid}
    (reached : ∀ jid, jid ∈ novas ↔
      ∃ other ∈ antes ++ destino :: depois, rede.alcance other = some jid)
    (atendidos : List Jid) (attended : ∀ jid, jid ∈ atendidos ↔
      ∃ other ∈ antes, rede.alcance other = some jid) :
    ((∀ t ∈ Envio.motivo rede atendidos destino, t = "") ↔
        ∃ jid ∈ novas, rede.alvo destino = some jid) ↔ FalhaDita rede antes destino depois := by
  unfold Envio.motivo FalhaDita Rede.alvo
  by_cases sem : Envio.semLink? destino = true
  · simp [sem]
  · rw [if_neg sem, if_neg sem]
    simp only [sem, forall_const]
    cases resolved : rede.resolveGroupIdFromInvite destino.chave with
    | error texto => simp [Except.toOption]
    | ok jid =>
        have target : (∃ j ∈ novas, (Except.ok jid : Except String Jid).toOption = some j) ↔
            ∃ other ∈ antes ++ destino :: depois, rede.alcance other = some jid := by
          simp only [Except.toOption, Option.some.injEq, exists_eq_right', reached]
        rw [target]
        simp only [List.mem_append, List.mem_cons, or_and_right, exists_or, exists_eq_left,
          ← attended]
        by_cases before : jid ∈ atendidos
        · have some_before := (attended jid).mp before
          simp only [before, if_true, true_or, iff_true]
          constructor
          · intro _ texto _ none_before
            obtain ⟨other, mem, reaches⟩ := some_before
            exact absurd reaches (none_before other mem)
          · intro _ t is
            cases is
        · have none_before : ∀ other ∈ antes, rede.alcance other ≠ some jid :=
            fun other mem reaches => before ((attended jid).mpr ⟨other, mem, reaches⟩)
          cases sent : rede.sendToGroup destino.chave with
          | error texto =>
              have not_reached : rede.alcance destino ≠ some jid := by
                simp [Rede.alcance, sent, Except.toOption]
              constructor
              · intro same motivo is _
                cases is
                simpa [before, not_reached] using same
              · intro same
                simpa [before, not_reached] using same texto rfl none_before
          | ok done =>
              have reaches : rede.alcance destino = some jid := by
                simp [Rede.alcance, Rede.alvo, sem, resolved, sent, Except.toOption]
              simp [before, reaches]

/-- The messages of the first turns of a round. -/
theorem novas_inicio (rede : Rede) (agora : Instant) (d : Divulgacao) (destinos : List Destino) :
    ∃ novas, ((Envio.inicio d).percorrer rede agora destinos).divulgacao.aceitas =
        d.aceitas ++ novas ∧
      ((Envio.inicio d).percorrer rede agora destinos).jidsAtendidos = novas ∧ novas.Nodup ∧
      ∀ jid, jid ∈ novas ↔ ∃ destino ∈ destinos, rede.alcance destino = some jid := by
  obtain ⟨novas, aceitas, atendidos, nodup, reached⟩ :=
    Envio.novas_percorrer rede agora (.inicio d) destinos
  exact ⟨novas, aceitas, atendidos, nodup, fun jid =>
    (reached jid).trans (and_iff_right List.not_mem_nil)⟩

/-- The row of an attempted destination after the round. -/
theorem linha_da_tentativa {antes depois : List Destino} {destino : Destino}
    (parts : d.tentativas rede origem = antes ++ destino :: depois) (P : Destino → Prop) :
    (∃ row ∈ (d.disparaNoWhatsapp rede origem agora).1.destinos.lista rede.trim,
        row.chave = destino.chave ∧ P row) ↔
      P { destino with
        resultado := destino.resultado.comMotivo agora
          (Envio.motivo rede ((Envio.inicio d).percorrer rede agora antes).jidsAtendidos
            destino) } := by
  have sublist := tentativas_sublist rede origem d
  have keys := (chaves_lista rede.trim d.destinos).sublist (sublist.map Destino.chave)
  rw [parts] at keys sublist
  have listed : destino ∈ d.destinos.lista rede.trim :=
    sublist.subset (List.mem_append_right _ List.mem_cons_self)
  have row := Envio.mem_percorrer rede agora (.inicio d) rede.trim
    listed keys
  rw [← parts, ← (disparaNoWhatsapp_eq rede origem agora d).2.1] at row
  constructor
  · rintro ⟨other, other_mem, same, holds⟩
    have one := List.inj_on_of_nodup_map (chaves_lista rede.trim _) other_mem row same
    rwa [one] at holds
  · intro holds
    exact ⟨_, row, rfl, holds⟩

/-- A round is right exactly when a publication reaches no group again and every failure is told. -/
theorem rodadaCerta_iff (d : Divulgacao)
    (acao : Acao) : d.RodadaCerta acao ↔ d.SemRepetir acao := by
  cases acao with
  | editar destinos => exact Iff.rfl
  | disparar rede origem agora =>
      obtain ⟨aceitas_eq, _, soma_eq⟩ := disparaNoWhatsapp_eq rede origem agora d
      obtain ⟨novas, aceitas, _, nodup, reached⟩ :=
        novas_inicio rede agora d (d.tentativas rede origem)
      have told : ∀ antes destino depois, d.tentativas rede origem = antes ++ destino :: depois →
          ((∃ row ∈ (d.disparaNoWhatsapp rede origem agora).1.destinos.lista rede.trim,
            row.chave = destino.chave ∧
              (row.Enviado ↔ ∃ jid ∈ novas, rede.alvo destino = some jid)) ↔
            FalhaDita rede antes destino depois) := by
        intro antes destino depois parts
        obtain ⟨_, _, rfl, _, attended⟩ := novas_inicio rede agora d antes
        rw [linha_da_tentativa parts, Envio.enviado_comMotivo]
        rw [parts] at reached
        exact enviado_iff_falhaDita reached _ attended
      constructor
      · rintro ⟨novas', aceitas', _, fresh, _, marks⟩
        have same : novas' = novas := by
          rw [aceitas_eq, aceitas] at aceitas'
          exact (List.append_cancel_left aceitas').symm
        subst same
        constructor
        · intro publish destino mem jid before reaches
          exact fresh publish jid ((reached jid).mpr ⟨destino, mem, reaches⟩) before
        · intro antes destino depois parts
          apply (told antes destino depois parts).mp
          apply marks
          rw [parts]
          exact List.mem_append_right _ List.mem_cons_self
      · rintro ⟨fresh, failures⟩
        refine ⟨novas, aceitas_eq.trans aceitas, nodup, ?_, ?_, ?_⟩
        · intro publish jid mem before
          obtain ⟨destino, attempted, reaches⟩ := (reached jid).mp mem
          exact fresh publish destino attempted jid before reaches
        · rw [soma_eq, Envio.contadas_percorrer]
          exact Nat.zero_add _
        · intro destino mem
          obtain ⟨antes, depois, parts⟩ := List.append_of_mem mem
          exact (told antes destino depois parts).mpr (failures antes destino depois parts)

/-- Over every history of a news item, its rounds are right exactly when each meets the
condition. -/
theorem rodadas_certas_iff (d : Divulgacao) (acoes : List Acao) :
    EachStep step RodadaCerta d acoes ↔ EachStep step SemRepetir d acoes :=
  eachStep_iff_of_invariant (I := fun _ => True) (fun d acao _ => rodadaCerta_iff d acao)
    (fun _ _ _ _ => trivial) trivial

end Divulgacao

/-! ### Two destinations of one group -/

namespace DoisDestinos

def umGrupo : Destinos where
  groups := [⟨6, "Retiro", "Adultos", some "https://chat.whatsapp.com/A", ⟨none, none⟩⟩]
  groupLinks := [⟨7, "https://chat.whatsapp.com/B", ⟨none, none⟩⟩]
  groups_nodup := List.nodup_singleton _
  groupLinks_nodup := List.nodup_singleton _

def noticia : Divulgacao where
  churchId := some 1
  destinos := umGrupo
  dispatches := []
  aceitas := []

/-- Both links lead to the same group. -/
def conectada : Rede where
  trim := id
  resolveGroupIdFromInvite := fun _ => .ok "grupo@g.us"
  sendToGroup := fun _ => .ok ()

/-- The second link does not resolve. -/
def semOSegundo : Rede :=
  { conectada with
    resolveGroupIdFromInvite := fun chave =>
      if chave = .avulso 7 then .error "Não foi possível identificar o grupo por este link."
      else .ok "grupo@g.us" }

end DoisDestinos

namespace Divulgacao

/-- Published with both links good, and published again. -/
theorem rodadas_certas_conectada :
    EachStep step RodadaCerta DoisDestinos.noticia
      [.disparar DoisDestinos.conectada .publish 1000,
        .disparar DoisDestinos.conectada .publish 2000] := by
  apply (rodadas_certas_iff _ _).mpr
  refine ⟨⟨?_, ?_⟩, ⟨?_, ?_⟩, trivial⟩
  · intro _ _ _ jid before
    cases before
  · intro antes destino depois _ _ motivo failed
    cases failed
  · intro _ destino mem
    cases mem
  · intro antes destino depois _ _ motivo failed
    cases failed

/-- The second link fails in the first publication, and in the second the group gets the message
again. -/
theorem not_rodadas_certas :
    ¬ ∀ (d : Divulgacao) (acoes : List Acao), EachStep step RodadaCerta d acoes := by
  intro all
  have second := (all DoisDestinos.noticia
    [.disparar DoisDestinos.semOSegundo .publish 1000,
      .disparar DoisDestinos.conectada .publish 2000]).2.1
  obtain ⟨novas, aceitas, _, fresh, _⟩ := second
  have sent : novas = ["grupo@g.us"] := (List.append_cancel_left aceitas).symm
  exact fresh rfl "grupo@g.us" (by simp [sent]) (by decide)

end Divulgacao

end IccvBackend
