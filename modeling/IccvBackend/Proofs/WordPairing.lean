/-
Module: IccvBackend.Proofs.WordPairing
Purpose: When the words two names have in common are counted as a best pairing of them: the loop
  takes the first word that will do, and that is right exactly when no pair can be crossed.
Trusted boundary: none
Main exports: Unicode.SoLetras, Planilha.palavrasDoNome_juntas, Planilha.casar_eq,
  Planilha.MelhorCasamento, Planilha.Trocaveis, Planilha.melhorCasamento_iff
-/
import IccvBackend.Lib.Pairing
import IccvBackend.Lib.Trail
import IccvBackend.Proofs.AlmostSameWord
import IccvBackend.Proofs.RowPerson

namespace IccvBackend

open Lib Planilha

/-- A small letter, a digit or a space. -/
def Claro (c : Char) : Prop := letraOuDigito c = true ∨ c = ' '

/-- The Unicode tables have nothing to change in small letters, digits and spaces. -/
structure Unicode.SoLetras (unicode : Unicode) : Prop where
  nfd : ∀ texto, (∀ c ∈ texto, Claro c) → unicode.nfd texto = texto
  toLowerCase : ∀ texto, (∀ c ∈ texto, Claro c) → unicode.toLowerCase texto = texto

namespace Planilha

variable {unicode : Unicode} {p q : List Char} {palavras : List (List Char)} {texto : List Char}
  {c : Char}

/-! ### A name for some words

The words of a name are letters and digits: joined by spaces they are a name with those words. -/

/-- A word that identifies somebody. -/
structure PalavraDeNome (p : List Char) : Prop where
  letras : ∀ c ∈ p, letraOuDigito c = true
  longa : 2 ≤ p.length
  conectivo : p ∉ conectivos

theorem palavraDeNome {nome : String} (mem : p ∈ palavrasDoNome unicode nome) :
    PalavraDeNome p := by
  simp only [palavrasDoNome, List.mem_filter, List.mem_map, Bool.and_eq_true,
    decide_eq_true_eq, Bool.not_eq_true', List.contains_eq_mem, decide_eq_false_iff_not] at mem
  obtain ⟨⟨_, _, rfl⟩, longa, conectivo⟩ := mem
  exact ⟨fun c inside => (List.mem_filter.mp inside).2, longa, conectivo⟩

theorem toNat_of_letra (letra : letraOuDigito c = true) :
    (0x61 ≤ c.toNat ∧ c.toNat ≤ 0x7a) ∨ (0x30 ≤ c.toNat ∧ c.toNat ≤ 0x39) := by
  simpa [letraOuDigito, Char.le_def, UInt32.le_iff_toNat_le] using letra

theorem not_branco_of_letra (letra : letraOuDigito c = true) : isBlank c = false := by
  have bounds := toNat_of_letra letra
  rw [Bool.eq_false_iff]
  intro blank
  simp only [isBlank, List.mem_cons, List.not_mem_nil, Bool.or_eq_true, Bool.and_eq_true,
    decide_eq_true_eq, or_false] at blank
  omega

theorem not_marca_of_claro (claro : Claro c) : marca c = false := by
  rcases claro with letra | rfl
  · have bounds := toNat_of_letra letra
    simp only [marca, Bool.and_eq_false_iff, decide_eq_false_iff_not]
    omega
  · decide

theorem ne_of_claro (claro : Claro c) : c ≠ '/' := by
  rintro rfl
  revert claro
  unfold Claro
  decide

/-- A text with no blank at either end. -/
structure Aparado (texto : List Char) : Prop where
  inicio : texto.head?.any isBlank = false
  fim : texto.getLast?.any isBlank = false

theorem trim_of_aparado (aparado : Aparado texto) : trimChars texto = texto :=
  trimChars_eq_self aparado.inicio aparado.fim

theorem juntas_cons_cons (p q : List Char) (palavras : List (List Char)) :
    juntas (p :: q :: palavras) = p ++ ' ' :: juntas (q :: palavras) := by
  rw [juntas, List.intercalate_cons_cons]
  simp [juntas]

theorem head?_palavra (palavra : PalavraDeNome p) : ∃ c rest, p = c :: rest ∧
    letraOuDigito c = true := by
  cases p with
  | nil => exact absurd palavra.longa (by decide)
  | cons c rest => exact ⟨c, rest, rfl, palavra.letras c List.mem_cons_self⟩

theorem juntas_ne_nil (palavra : PalavraDeNome p) : juntas (p :: palavras) ≠ [] := by
  obtain ⟨c, rest, rfl, _⟩ := head?_palavra palavra
  cases palavras with
  | nil => simp [juntas]
  | cons q palavras => simp [juntas_cons_cons]

theorem claro_juntas (todas : ∀ p ∈ palavras, PalavraDeNome p) :
    ∀ c ∈ juntas palavras, Claro c := by
  induction palavras with
  | nil => exact nofun
  | cons p palavras ih =>
      have here := todas p List.mem_cons_self
      cases palavras with
      | nil =>
          intro c mem
          exact .inl (here.letras c (by simpa [juntas] using mem))
      | cons q palavras =>
          intro c mem
          rw [juntas_cons_cons] at mem
          rcases List.mem_append.mp mem with first | later
          · exact .inl (here.letras c first)
          · rcases List.mem_cons.mp later with rfl | rest
            · exact .inr rfl
            · exact ih (fun p' mem' => todas p' (List.mem_cons_of_mem p mem')) c rest

theorem inicio_juntas (todas : ∀ p ∈ palavras, PalavraDeNome p) :
    (juntas palavras).head?.any isBlank = false := by
  cases palavras with
  | nil => rfl
  | cons p palavras =>
      obtain ⟨c, rest, rfl, letra⟩ := head?_palavra (todas p List.mem_cons_self)
      cases palavras with
      | nil => simpa [juntas] using not_branco_of_letra letra
      | cons q palavras =>
          rw [juntas_cons_cons]
          exact not_branco_of_letra letra

theorem aparado_juntas (todas : ∀ p ∈ palavras, PalavraDeNome p) : Aparado (juntas palavras) := by
  refine ⟨inicio_juntas todas, ?_⟩
  induction palavras with
  | nil => rfl
  | cons p palavras ih =>
      have here := todas p List.mem_cons_self
      cases palavras with
      | nil =>
          have some_letter : p ≠ [] := by
            obtain ⟨c, rest, rfl, _⟩ := head?_palavra here
            exact List.cons_ne_nil c rest
          have last := here.letras _ (List.getLast_mem some_letter)
          simpa [juntas, List.getLast?_eq_some_getLast some_letter] using not_branco_of_letra last
      | cons q palavras =>
          have rest := ih fun p' mem => todas p' (List.mem_cons_of_mem p mem)
          have some_letter : juntas (q :: palavras) ≠ [] :=
            juntas_ne_nil (todas q (List.mem_cons_of_mem p List.mem_cons_self))
          rw [juntas_cons_cons, List.getLast?_append, List.getLast?_cons_of_ne_nil some_letter]
          cases last : (juntas (q :: palavras)).getLast? with
          | none => exact absurd (List.getLast?_eq_none_iff.mp last) some_letter
          | some c => simpa [last] using rest

theorem umEspaco_append (letras : ∀ c ∈ p, letraOuDigito c = true) :
    umEspaco (p ++ texto) = p ++ umEspaco texto := by
  induction p with
  | nil => rfl
  | cons c p ih =>
      have letra := not_branco_of_letra (letras c List.mem_cons_self)
      rw [List.cons_append, umEspaco, if_neg (by simp [letra]),
        ih fun d mem => letras d (List.mem_cons_of_mem c mem)]
      rfl

theorem umEspaco_juntas (todas : ∀ p ∈ palavras, PalavraDeNome p) :
    umEspaco (juntas palavras) = juntas palavras := by
  induction palavras with
  | nil => rfl
  | cons p palavras ih =>
      have here := todas p List.mem_cons_self
      cases palavras with
      | nil =>
          have alone : juntas [p] = p ++ [] := by simp [juntas]
          rw [alone, umEspaco_append here.letras]
          rfl
      | cons q palavras =>
          have later : ∀ p' ∈ q :: palavras, PalavraDeNome p' :=
            fun p' mem => todas p' (List.mem_cons_of_mem p mem)
          have blank : isBlank ' ' = true := by decide
          rw [juntas_cons_cons, umEspaco_append here.letras, umEspaco, if_pos blank,
            if_neg (by simp [inicio_juntas later]), ih later]

/-- The words joined are a name with those words. -/
theorem palavrasDoNome_juntas (soLetras : unicode.SoLetras)
    (todas : ∀ p ∈ palavras, PalavraDeNome p) :
    palavrasDoNome unicode (String.ofList (juntas palavras)) = palavras := by
  have claro := claro_juntas todas
  have aparado := aparado_juntas todas
  have uma : nomeDaLinha (juntas palavras) = juntas palavras := by
    have whole : (juntas palavras).splitOn '/' = [juntas palavras] :=
      List.splitOn_eq_singleton fun slash => ne_of_claro (claro _ slash) rfl
    rw [nomeDaLinha, whole]
    exact trim_of_aparado aparado
  have normal : normalizar unicode (juntas palavras) = juntas palavras := by
    have semMarca : (juntas palavras).filter (fun c => !marca c) = juntas palavras :=
      List.filter_eq_self.mpr fun c mem => by simp [not_marca_of_claro (claro c mem)]
    rw [normalizar, soLetras.nfd _ claro, semMarca, soLetras.toLowerCase _ claro,
      umEspaco_juntas todas, trim_of_aparado aparado]
  have inteiras : palavras.map (fun p => p.filter letraOuDigito) = palavras :=
    (List.map_congr_left fun p mem => List.filter_eq_self.mpr (todas p mem).letras).trans
      (List.map_id palavras)
  have boas : palavras.filter (fun p => 2 ≤ p.length && !conectivos.contains p) = palavras :=
    List.filter_eq_self.mpr fun p mem => by simp [(todas p mem).longa, (todas p mem).conectivo]
  rw [palavrasDoNome, String.toList_ofList, uma, normal]
  cases palavras with
  | nil => rfl
  | cons p rest =>
      have separadas : (juntas (p :: rest)).splitOn ' ' = p :: rest :=
        List.splitOn_intercalate ' '
          (fun q mem blank => absurd ((todas q mem).letras ' ' blank) (by decide))
          (List.cons_ne_nil p rest)
      rw [separadas, inteiras, boas]

/-! ### The loop -/

/-- The loop of `emComum` is first fit. -/
theorem casar_eq (ps qs : List (List Char)) :
    casar ps qs = (firstFit mesmaPalavra ps qs).length := by
  induction ps generalizing qs with
  | nil => rfl
  | cons p ps ih =>
      rw [casar, firstFit, List.find?_eq_bind_findIdx?_getElem?]
      cases found : qs.findIdx? fun q => mesmaPalavra p q with
      | none => exact ih qs
      | some i =>
          have inside : i < qs.length := (List.findIdx?_eq_some_iff_getElem.mp found).1
          have taken : qs.eraseP (mesmaPalavra p) = qs.eraseIdx i := by
            rw [List.eraseP_eq_eraseIdx, found]
          simp only [Option.bind_some, List.getElem?_eq_getElem inside, List.length_cons, taken, ih]

/-! ### The words in common -/

section EmComum

variable (unicode : Unicode) (a b : String)

/-- The words of a name, each once. -/
def diferentes (nome : String) : List (List Char) := (palavrasDoNome unicode nome).eraseDups

/-- The pairings of the words of two names, where nobody's word is used twice. -/
def CasamentoCheio (m : Multiset (List Char × List Char)) : Prop :=
  MaximalPairing (fun p q => mesmaPalavra p q = true) (diferentes unicode a : Multiset (List Char))
    (palavrasDoNome unicode b : Multiset (List Char)) m

/-- The words in common are counted as a best pairing of the words: as many as can be, in whatever
order the words come, and whichever name comes first. -/
structure MelhorCasamento : Prop where
  maior : LargestPairing (fun p q => mesmaPalavra p q = true)
    (diferentes unicode a : Multiset (List Char)) (palavrasDoNome unicode b : Multiset (List Char))
    (emComum unicode a b)
  ordem : ∀ a' b', (palavrasDoNome unicode a').Perm (palavrasDoNome unicode a) →
    (palavrasDoNome unicode b').Perm (palavrasDoNome unicode b) →
      emComum unicode a' b' = emComum unicode a b
  simetria : (palavrasDoNome unicode a).Nodup → (palavrasDoNome unicode b).Nodup →
    emComum unicode a b = emComum unicode b a

/-- Some pairing of the words to which no pair can be added leaves out a word of each name, one like
an end of one of its pairs and the other like the other end. -/
def Trocaveis : Prop :=
  Crossing (fun p q => mesmaPalavra p q = true) (diferentes unicode a : Multiset (List Char))
    (palavrasDoNome unicode b : Multiset (List Char))

end EmComum

variable {a b a' b' : String}

/-- What is counted is a pairing to which none can be added. -/
theorem exists_casamentoCheio (unicode : Unicode) (a b : String) :
    ∃ m, CasamentoCheio unicode a b m ∧ m.card = emComum unicode a b := by
  refine ⟨_, maximal_firstFit mesmaPalavra (diferentes unicode a) (palavrasDoNome unicode b), ?_⟩
  rw [emComum, casar_eq]
  rfl

theorem diferentes_perm (perm : (palavrasDoNome unicode a').Perm (palavrasDoNome unicode a)) :
    (diferentes unicode a').Perm (diferentes unicode a) := by
  apply (List.perm_ext_iff_of_nodup (nodup_eraseDups _) (nodup_eraseDups _)).mpr
  intro p
  rw [List.mem_eraseDups, List.mem_eraseDups, perm.mem_iff]

theorem casamentoCheio_perm {m : Multiset (List Char × List Char)}
    (perm : (palavrasDoNome unicode a').Perm (palavrasDoNome unicode a))
    (perm' : (palavrasDoNome unicode b').Perm (palavrasDoNome unicode b))
    (cheio : CasamentoCheio unicode a' b' m) : CasamentoCheio unicode a b m := by
  unfold CasamentoCheio at cheio ⊢
  rwa [Multiset.coe_eq_coe.mpr (diferentes_perm perm), Multiset.coe_eq_coe.mpr perm'] at cheio

/-- A list without repetition keeps all its elements. -/
theorem eraseDups_of_nodup {l : List (List Char)} (nodup : l.Nodup) : l.eraseDups = l := by
  induction l with
  | nil => rfl
  | cons p l ih =>
      obtain ⟨other, rest⟩ := List.nodup_cons.mp nodup
      have all : l.filter (fun q => !q == p) = l :=
        List.filter_eq_self.mpr fun q mem => by
          have differ : q ≠ p := fun same => other (same ▸ mem)
          simpa using differ
      rw [List.eraseDups_cons, all, ih rest]

/-- Turned around, what is counted from the other name is a pairing of this one. -/
theorem CasamentoCheio.swap {m : Multiset (List Char × List Char)}
    (nodup : (palavrasDoNome unicode a).Nodup) (nodup' : (palavrasDoNome unicode b).Nodup)
    (cheio : CasamentoCheio unicode a b m) : CasamentoCheio unicode b a (m.map Prod.swap) := by
  have around := MaximalPairing.swap cheio
  have same : (fun q p : List Char => mesmaPalavra p q = true) =
      fun p q => mesmaPalavra p q = true := by
    funext q p
    rw [mesmaPalavra_comm]
  rw [same, diferentes, eraseDups_of_nodup nodup] at around
  rwa [CasamentoCheio, diferentes, eraseDups_of_nodup nodup']

/-- A name whose different words come in a given order. -/
theorem exists_nome_em_ordem (soLetras : unicode.SoLetras) {ordem : List (List Char)}
    (perm : ordem.Perm (diferentes unicode a)) :
    ∃ a', (palavrasDoNome unicode a').Perm (palavrasDoNome unicode a) ∧
      diferentes unicode a' = ordem := by
  have nodup : ordem.Nodup := perm.nodup_iff.mpr (nodup_eraseDups _)
  have inside : ∀ p ∈ ordem, p ∈ palavrasDoNome unicode a := fun p mem =>
    List.mem_eraseDups.mp (perm.mem_iff.mp mem)
  -- the repeated words come last
  let repetidas := (palavrasDoNome unicode a).diff ordem
  have whole : (ordem ++ repetidas).Perm (palavrasDoNome unicode a) :=
    List.subperm_append_diff_self_of_count_le fun p mem =>
      (List.nodup_iff_count_le_one.mp nodup p).trans (List.count_pos_iff.mpr (inside p mem))
  have words : palavrasDoNome unicode (String.ofList (juntas (ordem ++ repetidas))) =
      ordem ++ repetidas :=
    palavrasDoNome_juntas soLetras fun p mem => palavraDeNome (whole.mem_iff.mp mem)
  refine ⟨String.ofList (juntas (ordem ++ repetidas)), by rw [words]; exact whole, ?_⟩
  have nothing : repetidas.removeAll ordem = [] := by
    apply List.filter_eq_nil_iff.mpr
    intro p mem
    have there : p ∈ ordem :=
      perm.mem_iff.mpr (List.mem_eraseDups.mpr (whole.mem_iff.mp (List.mem_append_right _ mem)))
    simpa using there
  rw [diferentes, words, List.eraseDups_append, nothing, eraseDups_of_nodup nodup]
  simp

/-- Every pairing to which none can be added is what is counted for some order of the words. -/
theorem exists_ordem_emComum (soLetras : unicode.SoLetras) {m : Multiset (List Char × List Char)}
    (cheio : CasamentoCheio unicode a b m) :
    ∃ a' b', (palavrasDoNome unicode a').Perm (palavrasDoNome unicode a) ∧
      (palavrasDoNome unicode b').Perm (palavrasDoNome unicode b) ∧
        emComum unicode a' b' = m.card := by
  obtain ⟨ps, qs, perm, perm', counted⟩ := exists_order_firstFit cheio
  obtain ⟨a', same_words, order⟩ := exists_nome_em_ordem soLetras perm
  have words : palavrasDoNome unicode (String.ofList (juntas qs)) = qs :=
    palavrasDoNome_juntas soLetras fun p mem => palavraDeNome (perm'.mem_iff.mp mem)
  refine ⟨a', String.ofList (juntas qs), same_words, by rw [words]; exact perm', ?_⟩
  rw [emComum, words, ← diferentes, order, casar_eq, counted]

/-- The words in common are counted as a best pairing exactly when none can be crossed. -/
theorem melhorCasamento_iff (soLetras : unicode.SoLetras) (a b : String) :
    MelhorCasamento unicode a b ↔ ¬ Trocaveis unicode a b := by
  constructor
  case mp =>
      intro melhor
      apply (maximal_card_iff melhor.maior).mp
      intro m cheio
      obtain ⟨a', b', perm, perm', counted⟩ := exists_ordem_emComum soLetras cheio
      rw [← counted, melhor.ordem a' b' perm perm']
  case mpr =>
      intro fixas
      obtain ⟨n, maior⟩ := exists_largest (fun p q => mesmaPalavra p q = true)
        (diferentes unicode a : Multiset (List Char))
        (palavrasDoNome unicode b : Multiset (List Char))
      have all := (maximal_card_iff maior).mpr fixas
      have every : ∀ a' b', (palavrasDoNome unicode a').Perm (palavrasDoNome unicode a) →
          (palavrasDoNome unicode b').Perm (palavrasDoNome unicode b) →
            emComum unicode a' b' = n := by
        intro a' b' perm perm'
        obtain ⟨m, cheio, counted⟩ := exists_casamentoCheio unicode a' b'
        rw [← counted, all m (casamentoCheio_perm perm perm' cheio)]
      have here := every a b (.refl _) (.refl _)
      refine ⟨by rwa [here], fun a' b' perm perm' => ?_, fun nodup nodup' => ?_⟩
      · rw [here, every a' b' perm perm']
      · obtain ⟨m, cheio, counted⟩ := exists_casamentoCheio unicode b a
        have size := all (m.map Prod.swap) (cheio.swap nodup' nodup)
        rw [here, ← counted, ← size, Multiset.card_map]

/-- Nothing is crossed between names where no word of one is like two of the other. -/
theorem not_trocaveis (uma : ∀ p ∈ diferentes unicode a, ∀ p' ∈ diferentes unicode a,
    ∀ q ∈ palavrasDoNome unicode b, mesmaPalavra p q = true → mesmaPalavra p' q = true → p = p') :
    ¬ Trocaveis unicode a b := by
  rintro ⟨m, p, q, p', q', cheio, left, right, toRight, _⟩
  have p_mem : p ∈ diferentes unicode a := Multiset.mem_of_le left (Multiset.mem_cons_self p _)
  have p'_mem : p' ∈ diferentes unicode a :=
    Multiset.mem_of_le left (Multiset.mem_cons_of_mem (Multiset.mem_cons_self p' _))
  have q'_mem : q' ∈ palavrasDoNome unicode b :=
    Multiset.mem_of_le right (Multiset.mem_cons_of_mem (Multiset.mem_cons_self q' _))
  have pair := cheio.related (p', q') (Multiset.mem_cons_self _ _)
  obtain rfl := uma p p_mem p' p'_mem q' q'_mem toRight pair
  have once : Multiset.Nodup (diferentes unicode a : Multiset (List Char)) := nodup_eraseDups _
  have twice := Multiset.nodup_of_le left once
  exact (Multiset.nodup_cons.mp twice).1 (Multiset.mem_cons_self p _)

theorem toLower_of_claro (claro : Claro c) : c.toLower = c := by
  have small : ¬ (c.val ≥ 'A'.val ∧ c.val ≤ 'Z'.val) := by
    rw [ge_iff_le, UInt32.le_iff_toNat_le, UInt32.le_iff_toNat_le]
    rcases claro with letra | rfl
    · have bounds : (0x61 ≤ c.val.toNat ∧ c.val.toNat ≤ 0x7a) ∨
          (0x30 ≤ c.val.toNat ∧ c.val.toNat ≤ 0x39) := toNat_of_letra letra
      have first : 'A'.val.toNat = 0x41 := rfl
      have last : 'Z'.val.toNat = 0x5a := rfl
      omega
    · decide
  exact dif_neg small

theorem ascii_soLetras : ascii.SoLetras := by
  refine ⟨fun texto _ => rfl, fun texto claro => ?_⟩
  exact (List.map_congr_left fun c mem => toLower_of_claro (claro c mem)).trans (List.map_id texto)

theorem melhorCasamento_iff_damares : MelhorCasamento ascii "Damares Lima" "Damaris Lima" :=
  (melhorCasamento_iff ascii_soLetras "Damares Lima" "Damaris Lima").mpr
    (not_trocaveis (by decide +kernel))

/-- Marta first takes the word that is the same, and then Maria is like Mariah; Maria first takes
Marta, which she is like, and leaves Marta without any. -/
theorem not_melhorCasamento :
    emComum ascii "Marta Maria" "Marta Mariah" = 2 ∧
      emComum ascii "Maria Marta" "Marta Mariah" = 1 ∧
      ¬ MelhorCasamento ascii "Maria Marta" "Marta Mariah" := by
  have two : emComum ascii "Marta Maria" "Marta Mariah" = 2 := by decide +kernel
  have one : emComum ascii "Maria Marta" "Marta Mariah" = 1 := by decide +kernel
  refine ⟨two, one, fun melhor => ?_⟩
  have same := melhor.ordem "Marta Maria" "Marta Mariah" (by decide +kernel) (.refl _)
  rw [two, one] at same
  cases same

end Planilha

end IccvBackend
