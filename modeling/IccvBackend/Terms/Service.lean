/-
Module: IccvBackend.Terms.Service
Purpose: `terms/terms.service.ts`: the versions of the terms of use, who accepted which, and the
  decision on the sensitive data that comes with an acceptance.
Trusted boundary: human-reviewed spec
Main exports: TermsDocument, Termos, vigente, exigida, status, proximaVersao, Termos.gravarAceite,
  aceitar, Publicacoes, Publicacoes.agir
-/
import IccvBackend.Auth.Panel
import IccvBackend.Lib.Tasks
import IccvBackend.Lib.Transitions

namespace IccvBackend

open Lib

/-! ### Rows -/

structure TermsDocument where
  version : String
  content : String
  summary : List String
  requiresAcceptance : Bool
  publishedAt : Instant
  publishedById : Id
deriving Repr, DecidableEq

/-- `ContextoDoAceite`. -/
structure ContextoDoAceite where
  ip : Option String
  userAgent : Option String
deriving Repr, DecidableEq

structure TermsAcceptance where
  userId : Id
  version : String
  contexto : ContextoDoAceite
deriving Repr, DecidableEq

structure Termos where
  documents : List TermsDocument
  acceptances : List TermsAcceptance
deriving Repr, DecidableEq

/-- `PublicarTermosDto`. -/
structure PublicarTermosDto where
  content : String
  summary : List String
  requiresAcceptance : Bool
deriving Repr, DecidableEq

/-- What `status` answers. -/
structure StatusDosTermos where
  versao : Option String
  aceito : Bool
  consentimentoDadosSensiveis : Bool
  precisaDecidirDadosSensiveis : Bool
deriving Repr, DecidableEq

/-! ### Reads -/

/-- `findFirst` by `publishedAt` downwards.  Which of the rows of one instant comes first is the
database's to say: `sorte` is its choice. -/
def maisRecente (sorte : Nat) (documents : List TermsDocument) : Option TermsDocument :=
  let primeiros := documents.filter fun d => documents.all fun o => o.publishedAt ≤ d.publishedAt
  primeiros[sorte % primeiros.length]?

namespace Termos

variable (db : Termos)

/-- `vigente`. -/
def vigente (sorte : Nat) : Option TermsDocument := maisRecente sorte db.documents

/-- `exigida`. -/
def exigida (sorte : Nat) : Option TermsDocument :=
  maisRecente sorte (db.documents.filter TermsDocument.requiresAcceptance)

/-- The person accepted the required version, or one published after it. -/
def aceito (requerida : Option TermsDocument) (userId : Id) : Bool :=
  requerida.all fun requerida =>
    db.acceptances.any fun a => a.userId = userId &&
      db.documents.any fun d => requerida.publishedAt ≤ d.publishedAt && d.version = a.version

/-- `status`. -/
def status (painel : Painel) (userId : Id) (sorte sorteExigida : Nat) : StatusDosTermos :=
  let user := painel.pessoa? userId
  let temDadosSensiveis := user.any fun u =>
    (u.sensiveis.religion.any fun texto => texto ≠ "") || u.sensiveis.diabetes.isSome ||
      u.sensiveis.hypertensive.isSome
  let consentiu := user.any fun u => u.sensitiveConsentAt.isSome
  { versao := (db.vigente sorte).map TermsDocument.version
    aceito := db.aceito (db.exigida sorteExigida) userId
    consentimentoDadosSensiveis := consentiu
    precisaDecidirDadosSensiveis := temDadosSensiveis && !consentiu }

/-- `proximaVersao`, on a day of the church. -/
def proximaVersao (dia : String) : String :=
  let doDia := (db.documents.filter fun d => d.version.startsWith dia).length
  if doDia = 0 then dia else dia ++ "." ++ toString (doDia + 1)

/-! ### Writes -/

/-- The upsert of `registrarAceite`: accepting the same version again writes nothing. -/
def gravarAceite (userId : Id) (contexto : ContextoDoAceite) (version : String) : Termos :=
  if db.acceptances.any fun a => a.userId = userId && a.version = version then db
  else
    { db with
      acceptances := db.acceptances ++
        [⟨userId, version,
          { contexto with
            userAgent := contexto.userAgent.map fun texto => (texto.take 255).toString }⟩] }

/-- `registrarAceite`. -/
def registrarAceite (userId : Id) (contexto : ContextoDoAceite) (sorte : Nat) : Termos :=
  match db.vigente sorte with
  | none => db
  | some termos => db.gravarAceite userId contexto termos.version

/-- `termsDocument.create`: the version is unique. -/
def criar (dto : PublicarTermosDto) (publicadoPor : Id) (version : String) (agora : Instant) :
    Option Termos :=
  if db.documents.any fun d => d.version = version then none
  else
    some { db with
      documents := db.documents ++
        [{ version := version
           content := dto.content
           summary := (dto.summary.map trim).filter fun frase =>
             frase ≠ ""
           requiresAcceptance := dto.requiresAcceptance
           publishedAt := agora
           publishedById := publicadoPor }] }

end Termos

/-- The decision on the sensitive data that an acceptance may bring. -/
def decidirSensiveis (pedido : Option Bool) (agora : Instant) (p : Pessoa) : Pessoa :=
  aplicarConsentimento { UserDTO.vazio with sensitiveDataConsent := pedido } agora p

/-- `aceitar`, as one transaction on the terms and the records.  The consent is absent, null or a
decision.  A person who is not there fails the foreign key, or the update. -/
def aceitar (painel : Painel) (termos : Termos) (userId : Id) (contexto : ContextoDoAceite)
    (consentimento : Option (Option Bool)) (agora : Instant) (sorte : Nat) :
    Except Failure (Painel × Termos) := do
  failIf ((termos.vigente sorte).isSome && (painel.pessoa? userId).isNone)
    (internalServerError "P2003")
  let aceitos := termos.registrarAceite userId contexto sorte
  match consentimento with
  | none => pure (painel, aceitos)
  | some pedido => do
      let _ ← orFail (painel.pessoa? userId) (internalServerError "P2025")
      pure ({ painel with
        pessoas := updateKey Pessoa.id userId (decidirSensiveis pedido agora) painel.pessoas },
        aceitos)

/-! ### Runs of the terms

Publications, pages shown and acceptances at once.  `publicar` counts the versions of the day and
then creates; `aceitar` reads the version in force and then writes. -/

/-- Where a call of `publicar` is. -/
inductive FaseDaPublicacao where
  | contar
  | criar (version : String)
  | publicada
  | falhou
deriving Repr, DecidableEq

structure Publicacao where
  dto : PublicarTermosDto
  publicadoPor : Id
  tentativa : Nat
  fase : FaseDaPublicacao
deriving Repr, DecidableEq

/-- A call of `aceitar` that read the version in force. -/
structure AceiteEmCurso where
  userId : Id
  contexto : ContextoDoAceite
  version : String
  gravado : Bool
deriving Repr, DecidableEq

structure Publicacoes where
  db : Termos
  publicacoes : List Publicacao
  aceites : List AceiteEmCurso
  /-- what `atual` returned, and to whom -/
  mostradas : List (Id × String)
deriving Repr, DecidableEq

namespace Publicacoes

inductive Acao where
  | publicar (dto : PublicarTermosDto) (publicadoPor : Id)
  | contar (i : Nat) (dia : String)
  | criar (i : Nat) (agora : Instant)
  | atual (userId : Id) (sorte : Nat)
  | aceitar (userId : Id) (contexto : ContextoDoAceite) (sorte : Nat)
  | gravar (i : Nat)
deriving Repr, DecidableEq

variable (s : Publicacoes)

/-- The call of `publicar` moves. -/
def mover (i : Nat) (publicacao : Publicacao) : Publicacoes :=
  { s with publicacoes := s.publicacoes.set i publicacao }

/-- The creation of a version: a conflict counts again, three times at most. -/
def criar (i : Nat) (agora : Instant) : Publicacoes :=
  match s.publicacoes[i]? with
  | some ⟨dto, publicadoPor, tentativa, .criar version⟩ =>
      match s.db.criar dto publicadoPor version agora with
      | some db => { s with db := db }.mover i ⟨dto, publicadoPor, tentativa, .publicada⟩
      | none =>
          if 3 ≤ tentativa then s.mover i ⟨dto, publicadoPor, tentativa, .falhou⟩
          else s.mover i ⟨dto, publicadoPor, tentativa + 1, .contar⟩
  | _ => s

/-- The count of `proximaVersao`. -/
def contar (i : Nat) (dia : String) : Publicacoes :=
  match s.publicacoes[i]? with
  | some ⟨dto, publicadoPor, tentativa, .contar⟩ =>
      s.mover i ⟨dto, publicadoPor, tentativa, .criar (s.db.proximaVersao dia)⟩
  | _ => s

/-- `atual`, of a person. -/
def atual (userId : Id) (sorte : Nat) : Publicacoes :=
  match s.db.vigente sorte with
  | some termos => { s with mostradas := s.mostradas ++ [(userId, termos.version)] }
  | none => s

/-- The read of `aceitar`: without a version there is nothing to accept. -/
def lerVigente (userId : Id) (contexto : ContextoDoAceite) (sorte : Nat) : Publicacoes :=
  match s.db.vigente sorte with
  | some termos => { s with aceites := s.aceites ++ [⟨userId, contexto, termos.version, false⟩] }
  | none => s

/-- The write of `aceitar`. -/
def gravar (i : Nat) : Publicacoes :=
  match s.aceites[i]? with
  | some ⟨userId, contexto, version, false⟩ =>
      { s with
        db := s.db.gravarAceite userId contexto version
        aceites := s.aceites.set i ⟨userId, contexto, version, true⟩ }
  | _ => s

/-- One step of a run. -/
def agir : Acao → Publicacoes
  | .publicar dto publicadoPor =>
      { s with publicacoes := s.publicacoes ++ [⟨dto, publicadoPor, 1, .contar⟩] }
  | .contar i dia => s.contar i dia
  | .criar i agora => s.criar i agora
  | .atual userId sorte => s.atual userId sorte
  | .aceitar userId contexto sorte => s.lerVigente userId contexto sorte
  | .gravar i => s.gravar i

end Publicacoes

/-! ### Runs of the records

Records created and edited, and terms accepted, one after the other. -/

structure Cadastros where
  painel : Painel
  termos : Termos

namespace Cadastros

/-- The operations that write sensitive data, and the rest of the system: `publicarTermos` is a new
version, and `administrar` any change of the other tables and of the roles. -/
inductive Acao where
  | create (data : UserDTO) (acceptedTerms : Bool) (contexto : ContextoDoAceite) (agora : Instant)
      (sorte : Nat)
  | update (id : Id) (data : UserDTO) (requesterId : Id) (agora : Instant)
  | updateMe (userId : Id) (dto : UpdateMeDto) (agora : Instant)
  | aceitar (userId : Id) (contexto : ContextoDoAceite) (consentimento : Option (Option Bool))
      (agora : Instant) (sorte : Nat)
  | publicarTermos (novo : TermsDocument)
  | administrar (outro : Painel) (perfis : Id → Int)

variable (bcrypt : Bcrypt) (s : Cadastros)

/-- What an operation leaves, and whether it went through. -/
def executar : Acao → Cadastros × Bool
  | .create data acceptedTerms contexto agora sorte =>
      match s.painel.createUser bcrypt.hash data agora with
      | .ok painel =>
          (⟨painel, if acceptedTerms then s.termos.registrarAceite s.painel.nextId contexto sorte
            else s.termos⟩, true)
      | .error _ => (s, false)
  | .update id data requesterId agora =>
      match s.painel.updateUser id data (some requesterId) false agora with
      | .ok painel => ({ s with painel := painel }, true)
      | .error _ => (s, false)
  | .updateMe userId dto agora =>
      let (painel, resposta) := s.painel.updateMe bcrypt.compara userId dto agora
      ({ s with painel := painel }, resposta.isOk)
  | .aceitar userId contexto consentimento agora sorte =>
      match IccvBackend.aceitar s.painel s.termos userId contexto consentimento agora sorte with
      | .ok (painel, termos) => (⟨painel, termos⟩, true)
      | .error _ => (s, false)
  | .publicarTermos novo =>
      ({ s with termos := { s.termos with documents := s.termos.documents ++ [novo] } }, true)
  | .administrar outro perfis =>
      ({ s with
        painel := { outro with
          pessoas := s.painel.pessoas.map fun p => { p with role := perfis p.id }
          nextId := s.painel.nextId } }, true)

/-- One operation of a run. -/
def agir (s : Cadastros) (acao : Acao) : Cadastros := (s.executar bcrypt acao).1

end Cadastros

end IccvBackend
