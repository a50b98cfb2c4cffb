import Mathlib.Data.List.Chain
import Mathlib.Data.String.Basic
import TagQuery.Proofs.Except
import TagQuery.Proofs.Query.Lexing

/-!
# Texts as tokens written down

A query may be laid out in many ways: each token has one or more spellings, and blanks may stand
anywhere around it. A `Layout` is one such way, and reading its text gives its tokens back, each at
the byte where it was written; conversely every text that can be read has a layout (`stops_layout`).

What can go wrong is that two spellings run together. That is a matter of the two tokens
(`Token.runsInto`): two words do, and so do the signs `!`, `<` and `>` with what completes them to a
longer one. Only between such tokens a gap must not be empty. The reader sees it from the other
side: it takes a token off the front of a text if the text begins with a spelling of it and what
follows does not go on with it (`Token.scan?_eq_some_iff`). Before the spelling of another token
this means that the two do not run together (`Token.endsBefore_append_iff`).
-/

namespace TagQuery

theorem Text.utf8Length_toList (source : String) :
    utf8Length source.toList = source.utf8ByteSize := by
  have hsize := String.utf8ByteSize_ofList source.toList
  rw [String.ofList_toList] at hsize
  rw [hsize]
  induction source.toList with
  | nil => rfl
  | cons c cs ih => rw [utf8Length_cons, String.utf8Len_cons, ih, Nat.add_comm]

namespace Query

/-! ## Spellings -/

/-- What stands between quotes, and what it means: quotes and backslashes are escaped, and any other
character after a backslash leaves it as it is. -/
inductive Quotes : List Char → List Char → Prop
  | nil : Quotes [] []
  | plain {c : Char} {body content : List Char} (hc : c ≠ '"' ∧ c ≠ '\\')
      (h : Quotes body content) : Quotes (c :: body) (c :: content)
  | escaped {c : Char} {body content : List Char} (hc : c = '"' ∨ c = '\\')
      (h : Quotes body content) : Quotes ('\\' :: c :: body) (c :: content)
  | kept {c : Char} {body content : List Char} (hc : c ≠ '"' ∧ c ≠ '\\')
      (h : Quotes body content) : Quotes ('\\' :: c :: body) ('\\' :: c :: content)

/-- The ways in which a token can be spelled. -/
inductive Token.Spells : Token → List Char → Prop
  | keyword (k : Keyword) : Spells (.keyword k) k.spelling.toList
  | symbol (s : Symbol) : Spells (.symbol s) s.spelling.toList
  | word {s : String} (h : (word s).IsWritable) : Spells (.word s) s.toList
  | quoted {body content : List Char} (h : Quotes body content) :
      Spells (.quoted (.ofList content)) ('"' :: (body ++ ['"']))

theorem quotes_escape (content : List Char) : Quotes (Token.escape content) content := by
  induction content with
  | nil => exact .nil
  | cons c content ih =>
    rw [Token.escape, List.flatMap_cons]
    split
    · next hc => exact .escaped hc ih
    · next hc => exact .plain (not_or.mp hc) ih

/-- The spelling of a token with all quotes and backslashes escaped. -/
theorem Token.spells_spelling {t : Token} (h : t.IsWritable) : t.Spells t.spelling := by
  cases t with
  | keyword k => exact .keyword k
  | symbol s => exact .symbol s
  | word s => exact .word h
  | quoted s =>
    have hspells := Spells.quoted (quotes_escape s.toList)
    rwa [String.ofList_toList] at hspells

theorem Keyword.eq_spelling_of_ofWord? {s : String} {k : Keyword} (h : ofWord? s = some k) :
    s = k.spelling := by
  unfold ofWord? at h
  split at h <;> cases h <;> rfl

/-! ## What runs together -/

namespace Token

/-- Whether a token is spelled with word characters. -/
def isWordLike : Token → Bool
  | keyword _ | word _ => true
  | symbol _ | quoted _ => false

/-- Whether a token, written right before another one, would be read as part of something longer. -/
def runsInto : Token → Token → Bool
  | symbol .bang, symbol .equal | symbol .bang, symbol .like => true
  | symbol (.comparison .less), symbol .equal => true
  | symbol (.comparison .greater), symbol .equal => true
  | t, u => t.isWordLike && u.isWordLike

/-- Whether a character after the spelling of a token would go on with it. -/
def goesOn : Token → Char → Bool
  | keyword _, c | word _, c => isWordCharacter c
  | symbol .bang, c => c == '=' || c == '~'
  | symbol (.comparison .less), c | symbol (.comparison .greater), c => c == '='
  | _, _ => false

/-- Whether a token ends before a text, which does not go on with it. -/
def EndsBefore (t : Token) (rest : List Char) : Prop := ∀ c ∈ rest.head?, t.goesOn c = false

theorem goesOn_of_isSeparator {c : Char} (hc : isSeparator c = true) (t : Token) :
    t.goesOn c = false := by
  have hword := isWordCharacter_of_isSeparator hc
  have hequal : (c == '=') = false := beq_false_of_ne (by rintro rfl; cases hc)
  have hlike : (c == '~') = false := beq_false_of_ne (by rintro rfl; cases hc)
  fun_cases goesOn t c <;> simp [hword, hequal, hlike]

/-- What goes on with a token is known of a character by three facts. -/
theorem goesOn_eq_runsInto {c : Char} {u : Token} (hword : isWordCharacter c = u.isWordLike)
    (hequal : (c == '=') = decide (u = symbol .equal))
    (hlike : (c == '~') = decide (u = symbol .like)) (t : Token) : t.goesOn c = t.runsInto u := by
  have hbang : (symbol .bang).runsInto u =
      (decide (u = symbol .equal) || decide (u = symbol .like)) := by
    cases u with
    | symbol s => cases s <;> rfl
    | _ => rfl
  have hsign : ∀ op : Comparison, (symbol (.comparison op)).runsInto u =
      (decide (op = .less ∨ op = .greater) && decide (u = symbol .equal)) := by
    intro op
    cases u with
    | symbol s => cases op <;> cases s <;> rfl
    | _ => cases op <;> rfl
  cases t with
  | keyword k => exact hword
  | word s => exact hword
  | quoted s => rfl
  | symbol s =>
    cases s with
    | bang => rw [goesOn, hequal, hlike, hbang]
    | comparison op => cases op <;> simp [goesOn, hequal, hsign]
    | _ => rfl

theorem goesOn_eq_runsInto_of_isWordCharacter {c : Char} {u : Token}
    (hc : isWordCharacter c = true) (hu : u.isWordLike = true) (t : Token) :
    t.goesOn c = t.runsInto u := by
  have hchar : ∀ d, isWordCharacter d = false → (c == d) = false := by
    intro d hd
    refine beq_false_of_ne ?_
    rintro rfl
    exact absurd hc (Bool.eq_false_iff.mp hd)
  have hsymbol : ∀ s, decide (u = symbol s) = false := by
    intro s
    refine decide_eq_false ?_
    rintro rfl
    cases hu
  refine goesOn_eq_runsInto (hc.trans hu.symm) ?_ ?_ t
  · rw [hchar '=' (by decide), hsymbol]
  · rw [hchar '~' (by decide), hsymbol]

theorem isWritable_spelling (k : Keyword) :
    ∃ c cs, k.spelling.toList = c :: cs ∧ ∀ d ∈ c :: cs, isWordCharacter d = true := by
  cases k with
  | kind k => cases k <;> exact ⟨_, _, rfl, List.all_eq_true.mp rfl⟩
  | _ => exact ⟨_, _, rfl, List.all_eq_true.mp rfl⟩

/-- Whether a token runs into another one is seen from the first character of the other's
spelling. -/
theorem Spells.exists_cons {u : Token} {cs : List Char} (h : u.Spells cs) :
    ∃ c rest, cs = c :: rest ∧ ∀ t : Token, t.goesOn c = t.runsInto u := by
  cases h with
  | keyword k =>
    obtain ⟨c, rest, hcs, hchars⟩ := isWritable_spelling k
    exact ⟨c, rest, hcs, goesOn_eq_runsInto_of_isWordCharacter (hchars c List.mem_cons_self) rfl⟩
  | word h =>
    obtain ⟨hne, hchars, -⟩ := h
    obtain ⟨c, rest, hcs⟩ := List.exists_cons_of_ne_nil hne
    have hc := hchars c (hcs ▸ List.mem_cons_self)
    exact ⟨c, rest, hcs, goesOn_eq_runsInto_of_isWordCharacter hc rfl⟩
  | quoted h =>
    have hquote : isWordCharacter '"' = false := by decide
    exact ⟨'"', _, rfl, goesOn_eq_runsInto hquote rfl rfl⟩
  | symbol s =>
    cases s with
    | comparison op =>
      cases op <;> exact ⟨_, _, rfl, goesOn_eq_runsInto (by decide) (by decide) (by decide)⟩
    | _ => exact ⟨_, _, rfl, goesOn_eq_runsInto (by decide) (by decide) (by decide)⟩

/-- **A token ends before the spelling of another one** exactly if it does not run into that. -/
theorem endsBefore_append_iff {t u : Token} {cs rest : List Char} (h : u.Spells cs) :
    t.EndsBefore (cs ++ rest) ↔ t.runsInto u = false := by
  obtain ⟨c, cs, rfl, hruns⟩ := h.exists_cons
  rw [← hruns t]
  exact ⟨fun hends ↦ hends c rfl, fun hc ↦ by rintro _ ⟨⟩; exact hc⟩

/-! ## Taking a token off a text -/

theorem scanQuoted?_eq_some_iff {cs content rest : List Char} :
    scanQuoted? cs = some (content, rest) ↔
      ∃ body, Quotes body content ∧ cs = body ++ '"' :: rest := by
  constructor
  · intro h
    fun_induction scanQuoted? cs generalizing content rest with
    | case1 => cases h
    | case2 cs =>
      cases h
      exact ⟨[], .nil, rfl⟩
    | case3 => cases h
    | case4 c cs ih =>
      obtain ⟨⟨content', rest'⟩, hscan, he⟩ := Option.map_eq_some_iff.mp h
      cases he
      obtain ⟨body, hquotes, rfl⟩ := ih hscan
      by_cases hc : c = '"' ∨ c = '\\'
      · rw [unescape, if_pos hc]
        exact ⟨'\\' :: c :: body, .escaped hc hquotes, rfl⟩
      · rw [unescape, if_neg hc]
        exact ⟨'\\' :: c :: body, .kept (not_or.mp hc) hquotes, rfl⟩
    | case5 c cs hquote hlast hpair ih =>
      obtain ⟨⟨content', rest'⟩, hscan, he⟩ := Option.map_eq_some_iff.mp h
      cases he
      obtain ⟨body, hquotes, rfl⟩ := ih hscan
      have hback : c ≠ '\\' := by
        rintro rfl
        cases body with
        | nil => exact hpair '"' rest rfl rfl
        | cons d body => exact hpair d (body ++ '"' :: rest) rfl rfl
      exact ⟨c :: body, .plain ⟨hquote, hback⟩ hquotes, rfl⟩
  · rintro ⟨body, hquotes, rfl⟩
    induction hquotes with
    | nil => rfl
    | plain hc _ ih =>
      rw [List.cons_append, scanQuoted?, ih]
      · rfl
      · exact hc.1
      · exact fun hback _ ↦ hc.2 hback
      · exact fun _ _ hback _ ↦ hc.2 hback
    | escaped hc _ ih =>
      rw [List.cons_append, List.cons_append, scanQuoted?, ih, Option.map_some, unescape, if_pos hc]
      rfl
    | kept hc _ ih =>
      rw [List.cons_append, List.cons_append, scanQuoted?, ih, Option.map_some, unescape,
        if_neg (not_or.mpr hc)]
      rfl

/-- A symbol is taken off a text if nothing completes it to a longer one. -/
theorem symbolScan?_eq_some_iff {cs rest : List Char} {s : Symbol} :
    Symbol.scan? cs = some (s, rest) ↔
      cs = s.spelling.toList ++ rest ∧ (symbol s).EndsBefore rest := by
  constructor
  · intro h
    refine ⟨Symbol.eq_append_of_scan? h, ?_⟩
    have hne : ∀ {d : Char}, (∀ rest', rest = d :: rest' → False) →
        ∀ c ∈ rest.head?, (c == d) = false := by
      intro d hd c hc
      obtain ⟨rest', rfl⟩ : ∃ rest', rest = c :: rest' := List.head?_eq_some_iff.mp hc
      exact beq_false_of_ne fun hcd ↦ hd rest' (hcd ▸ rfl)
    unfold Symbol.scan? at h
    split at h
    -- the signs that are part of longer ones
    case h_7 hequal =>
      cases h
      exact hne fun rest' hrest ↦ hequal rest' (hrest ▸ rfl)
    case h_8 hequal =>
      cases h
      exact hne fun rest' hrest ↦ hequal rest' (hrest ▸ rfl)
    case h_9 hequal hlike =>
      cases h
      intro c hc
      have hc₁ := hne (fun rest' hrest ↦ hequal rest' (hrest ▸ rfl)) c hc
      have hc₂ := hne (fun rest' hrest ↦ hlike rest' (hrest ▸ rfl)) c hc
      rw [goesOn, hc₁, hc₂]
      rfl
    all_goals cases h
    all_goals exact fun _ _ ↦ rfl
  · rintro ⟨rfl, hends⟩
    have hhead : ∀ {d : Char}, (symbol s).goesOn d = true → rest.head? ≠ some d := by
      intro d hd hrest
      rw [hends d hrest] at hd
      cases hd
    cases s with
    | bang => exact Symbol.scan?_bang (hhead rfl) (hhead rfl)
    | comparison op =>
      cases op with
      | less => exact Symbol.scan?_less (hhead rfl)
      | greater => exact Symbol.scan?_greater (hhead rfl)
      | lessEqual => rfl
      | greaterEqual => rfl
    | _ => rfl

theorem spells_ofWord {w : List Char} (hne : w ≠ []) (hchars : ∀ c ∈ w, isWordCharacter c = true) :
    (ofWord w).Spells w := by
  rw [ofWord]
  split
  · next k hk =>
    have hspelling := congrArg String.toList (Keyword.eq_spelling_of_ofWord? hk)
    rw [String.toList_ofList] at hspelling
    rw [hspelling]
    exact .keyword k
  · next hnone =>
    have hspells := Spells.word (s := .ofList w)
      ⟨by rwa [String.toList_ofList], by rwa [String.toList_ofList], hnone⟩
    rwa [String.toList_ofList] at hspells

theorem goesOn_ofWord (w : List Char) (c : Char) : (ofWord w).goesOn c = isWordCharacter c := by
  rw [ofWord]
  split <;> rfl

theorem ofWord_spelling (k : Keyword) : ofWord k.spelling.toList = keyword k := by
  rw [ofWord, String.ofList_toList, Keyword.ofWord?_spelling]

theorem ofWord_toList {s : String} (h : (word s).IsWritable) : ofWord s.toList = word s := by
  rw [ofWord, String.ofList_toList, h.2.2]

theorem scan?_word_append {w rest : List Char} (hne : w ≠ [])
    (hchars : ∀ c ∈ w, isWordCharacter c = true)
    (hrest : ∀ c ∈ rest.head?, isWordCharacter c = false) :
    scan? (w ++ rest) = some (ofWord w, rest) := by
  obtain ⟨htake, hdrop⟩ := Text.takeWhile_append_eq hchars hrest
  obtain ⟨c, cs, rfl⟩ := List.exists_cons_of_ne_nil hne
  have hc := hchars c List.mem_cons_self
  have hquote : c ≠ '"' := by
    rintro rfl
    exact absurd hc (by decide)
  rw [List.cons_append] at htake hdrop ⊢
  rw [scan?_word (symbolScan?_eq_none_of_isWordCharacter hc) hquote, htake, hdrop]
  rfl

/-- **A token is taken off a text** if the text begins with a spelling of it and does not go on with
it after that, and only then. -/
theorem scan?_eq_some_iff {cs rest : List Char} {t : Token} :
    scan? cs = some (t, rest) ↔
      ∃ spelling, t.Spells spelling ∧ cs = spelling ++ rest ∧ t.EndsBefore rest := by
  constructor
  · intro h
    obtain _ | ⟨c, cs⟩ := cs
    · cases h
    cases hsymbol : Symbol.scan? (c :: cs) with
    | some found =>
      rw [scan?_symbol hsymbol] at h
      cases h
      obtain ⟨hcs, hends⟩ := symbolScan?_eq_some_iff.mp hsymbol
      exact ⟨_, .symbol found.1, hcs, hends⟩
    | none =>
      by_cases hquote : c = '"'
      · subst hquote
        rw [scan?_quote] at h
        obtain ⟨⟨content, rest'⟩, hquoted, he⟩ := Option.map_eq_some_iff.mp h
        cases he
        obtain ⟨body, hquotes, rfl⟩ := scanQuoted?_eq_some_iff.mp hquoted
        exact ⟨_, .quoted hquotes, by simp, fun _ _ ↦ rfl⟩
      · rw [scan?_word hsymbol hquote] at h
        split at h
        · cases h
        · next hne =>
          cases h
          have hchars : ∀ d ∈ (c :: cs).takeWhile isWordCharacter, isWordCharacter d = true :=
            fun d hd ↦ List.all_eq_true.mp List.all_takeWhile d hd
          refine ⟨_, spells_ofWord (by simpa using hne) hchars,
            List.takeWhile_append_dropWhile.symm, fun d hd ↦ ?_⟩
          have hlast := List.head?_dropWhile_not isWordCharacter (c :: cs)
          rw [hd] at hlast
          rw [goesOn_ofWord]
          simpa using hlast
  · rintro ⟨spelling, hspells, rfl, hends⟩
    cases hspells with
    | keyword k =>
      obtain ⟨c, cs, hcs, hchars⟩ := isWritable_spelling k
      rw [scan?_word_append (hcs ▸ List.cons_ne_nil c cs) (hcs ▸ hchars) hends, ofWord_spelling]
    | word h => rw [scan?_word_append h.1 h.2.1 hends, ofWord_toList h]
    | symbol s => exact scan?_symbol (symbolScan?_eq_some_iff.mpr ⟨rfl, hends⟩)
    | @quoted body content h =>
      have hscan : scanQuoted? (body ++ '"' :: rest) = some (content, rest) :=
        scanQuoted?_eq_some_iff.mpr ⟨body, h, rfl⟩
      rw [List.cons_append, List.append_assoc, List.singleton_append, scan?_quote, hscan]
      rfl

/-- What a text is read as can be written. -/
theorem isWritable_of_scan? {cs rest : List Char} {t : Token} (h : scan? cs = some (t, rest)) :
    t.IsWritable := by
  obtain ⟨spelling, hspells, -⟩ := scan?_eq_some_iff.mp h
  cases hspells with
  | word hword => exact hword
  | keyword _ | symbol _ | quoted _ => trivial

end Token

theorem Lexes.isWritable {cs : List Char} {ts : List Token} (h : Lexes cs ts) :
    ∀ t ∈ ts, t.IsWritable := by
  induction h with
  | nil => exact List.forall_mem_nil _
  | separator _ _ ih => exact ih
  | token ht _ ih => exact List.forall_mem_cons.mpr ⟨Token.isWritable_of_scan? ht, ih⟩

/-! ## Layouts -/

/-- A token as it stands in a text. -/
structure Inscription where
  /-- What stands between the token before it, or the start of the text, and this one. -/
  gap : List Char
  spelling : List Char
  token : Token

/-- The characters of a token and of the gap before it. -/
def Inscription.text (i : Inscription) : List Char := i.gap ++ i.spelling

/-- A way to write tokens down. -/
structure Layout where
  inscriptions : List Inscription
  /-- What stands after the last token. -/
  tail : List Char

namespace Layout

/-- The text that tokens are written as. -/
def text (l : Layout) : List Char := l.inscriptions.flatMap Inscription.text ++ l.tail

/-- The tokens with the offsets at which they are written, if the first gap is at a given offset. -/
def placedFrom (offset : Nat) : List Inscription → List PlacedToken
  | [] => []
  | i :: is => ⟨i.token, offset + Text.utf8Length i.gap⟩ ::
      placedFrom (offset + Text.utf8Length i.text) is

/-- The tokens where they are written, and the end where the text ends. -/
def stops (l : Layout) : List Stop :=
  (placedFrom 0 l.inscriptions).map (fun p ↦ ⟨some p.token, p.offset⟩) ++
    [⟨none, Text.utf8Length l.text⟩]

/-- Whether tokens are written as they are read: each in one of its spellings, with nothing but
separators around them, and with a gap where two would run together. -/
structure IsProper (l : Layout) : Prop where
  gap : ∀ i ∈ l.inscriptions, ∀ c ∈ i.gap, isSeparator c = true
  tail : ∀ c ∈ l.tail, isSeparator c = true
  spells : ∀ i ∈ l.inscriptions, i.token.Spells i.spelling
  apart : l.inscriptions.IsChain fun i j ↦ i.token.runsInto j.token = true → j.gap ≠ []

theorem text_cons (i : Inscription) (is : List Inscription) (tail : List Char) :
    text ⟨i :: is, tail⟩ = i.gap ++ (i.spelling ++ text ⟨is, tail⟩) := by
  rw [text, text, List.flatMap_cons, Inscription.text, List.append_assoc, List.append_assoc]

section Proper

variable {i : Inscription} {is : List Inscription} {tail : List Char}

theorem IsProper.of_cons (h : IsProper ⟨i :: is, tail⟩) : IsProper ⟨is, tail⟩ where
  gap j hj := h.gap j (List.mem_cons_of_mem i hj)
  tail := h.tail
  spells j hj := h.spells j (List.mem_cons_of_mem i hj)
  apart := (List.isChain_cons.mp h.apart).2

/-- A token ends before what is written after it. -/
theorem IsProper.endsBefore (h : IsProper ⟨i :: is, tail⟩) :
    i.token.EndsBefore (text ⟨is, tail⟩) := by
  have hseparator : ∀ {cs rest : List Char}, (∀ c ∈ cs, isSeparator c = true) → cs ≠ [] →
      i.token.EndsBefore (cs ++ rest) := by
    intro cs rest hcs hne
    obtain ⟨c, cs, rfl⟩ := List.exists_cons_of_ne_nil hne
    rintro _ ⟨⟩
    exact Token.goesOn_of_isSeparator (hcs c List.mem_cons_self) _
  cases is with
  | nil =>
    by_cases htail : tail = []
    · rw [htail]
      exact nofun
    · have hends : i.token.EndsBefore (tail ++ []) := hseparator h.tail htail
      rwa [List.append_nil] at hends
  | cons j is =>
    have hj : j ∈ i :: j :: is := List.mem_cons_of_mem i List.mem_cons_self
    rw [text_cons]
    by_cases hgap : j.gap = []
    · -- nothing keeps the two apart, so they do not run together
      have hruns := mt (List.isChain_cons_cons.mp h.apart).1 (not_not.mpr hgap)
      rw [hgap, List.nil_append, Token.endsBefore_append_iff (h.spells j hj)]
      exact Bool.eq_false_iff.mpr hruns
    · exact hseparator (h.gap j hj) hgap

/-- One more token can be written before a text if it ends there. -/
theorem IsProper.cons (h : IsProper ⟨is, tail⟩) (hgap : ∀ c ∈ i.gap, isSeparator c = true)
    (hspells : i.token.Spells i.spelling) (hends : i.token.EndsBefore (text ⟨is, tail⟩)) :
    IsProper ⟨i :: is, tail⟩ where
  gap := List.forall_mem_cons.mpr ⟨hgap, h.gap⟩
  tail := h.tail
  spells := List.forall_mem_cons.mpr ⟨hspells, h.spells⟩
  apart := by
    refine List.isChain_cons.mpr ⟨fun j hj hruns hempty ↦ ?_, h.apart⟩
    obtain ⟨is, rfl⟩ := List.head?_eq_some_iff.mp hj
    rw [text_cons, hempty, List.nil_append,
      Token.endsBefore_append_iff (h.spells j List.mem_cons_self), hruns] at hends
    cases hends

end Proper

/-! ## Reading a layout -/

theorem tokensFrom_separators {cs : List Char} (h : ∀ c ∈ cs, isSeparator c = true) (offset : Nat) :
    tokensFrom offset cs = .ok [] := by
  rw [tokensFrom]
  split
  · rfl
  · next c cs' hdrop =>
    rw [List.dropWhile_eq_nil_iff.mpr h] at hdrop
    cases hdrop

/-- A token is read after the gap before it, and the rest from its end on. -/
theorem tokensFrom_gap {gap spelling rest : List Char} {t : Token}
    (hgap : ∀ c ∈ gap, isSeparator c = true)
    (hscan : Token.scan? (spelling ++ rest) = some (t, rest)) (offset : Nat) :
    tokensFrom offset (gap ++ (spelling ++ rest)) =
      (tokensFrom (offset + Text.utf8Length (gap ++ spelling)) rest).map
        (⟨t, offset + Text.utf8Length gap⟩ :: ·) := by
  have hhead : ∀ c ∈ (spelling ++ rest).head?, isSeparator c = false := by
    intro c hc
    obtain ⟨cs, hcs⟩ := List.head?_eq_some_iff.mp hc
    rw [hcs] at hscan
    refine Bool.eq_false_iff.mpr fun hsep ↦ ?_
    rw [Token.scan?_separator hsep] at hscan
    cases hscan
  obtain ⟨htake, hdrop⟩ := Text.takeWhile_append_eq hgap hhead
  rw [tokensFrom]
  split
  · next hnil =>
    rw [hdrop] at hnil
    rw [hnil] at hscan
    cases hscan
  · next c cs hcons =>
    rw [hdrop] at hcons
    rw [htake, ← hcons]
    split
    · next hnone =>
      rw [hscan] at hnone
      cases hnone
    · next hsome =>
      rw [hscan] at hsome
      cases hsome
      rw [Text.utf8Length_append, Text.utf8Length_append, Nat.add_sub_cancel, Nat.add_assoc]

/-- What is written is read, from any offset on. -/
theorem tokensFrom_text {is : List Inscription} {tail : List Char} (h : IsProper ⟨is, tail⟩)
    (offset : Nat) : tokensFrom offset (text ⟨is, tail⟩) = .ok (placedFrom offset is) := by
  induction is generalizing offset with
  | nil => exact tokensFrom_separators h.tail offset
  | cons i is ih =>
    have hscan := Token.scan?_eq_some_iff.mpr
      ⟨i.spelling, h.spells i List.mem_cons_self, rfl, h.endsBefore⟩
    rw [text_cons, tokensFrom_gap (h.gap i List.mem_cons_self) hscan, ← Inscription.text,
      ih h.of_cons]
    rfl

/-- What is read is written in some way. -/
theorem exists_of_tokensFrom (offset : Nat) (cs : List Char) (placed : List PlacedToken)
    (h : tokensFrom offset cs = .ok placed) :
    ∃ l : Layout, l.IsProper ∧ l.text = cs ∧ placedFrom offset l.inscriptions = placed := by
  fun_induction tokensFrom offset cs generalizing placed with
  | case1 offset cs hdrop =>
    cases h
    refine ⟨⟨[], cs⟩, ⟨List.forall_mem_nil _, ?_, List.forall_mem_nil _, .nil⟩, rfl, rfl⟩
    exact List.dropWhile_eq_nil_iff.mp hdrop
  | case2 => cases h
  | case3 offset cs start c cs' hdrop token rest hscan ih =>
    obtain ⟨spelling, hspells, hcs, hends⟩ := Token.scan?_eq_some_iff.mp hscan
    obtain ⟨placed', hrest, rfl⟩ := map_eq_ok_iff.mp h
    obtain ⟨l, hproper, rfl, hplaced⟩ := ih placed' hrest
    have hgap : ∀ c ∈ cs.takeWhile isSeparator, isSeparator c = true :=
      fun c hc ↦ List.all_eq_true.mp List.all_takeWhile c hc
    let i : Inscription := ⟨cs.takeWhile isSeparator, spelling, token⟩
    refine ⟨⟨i :: l.inscriptions, l.tail⟩, hproper.cons hgap hspells hends, ?_, ?_⟩
    · rw [text_cons, ← hcs, ← hdrop]
      exact List.takeWhile_append_dropWhile
    · have hend : offset + Text.utf8Length i.text =
          start + (Text.utf8Length (c :: cs') - Text.utf8Length l.text) := by
        rw [hcs, Text.utf8Length_append, Nat.add_sub_cancel, Inscription.text,
          Text.utf8Length_append, ← Nat.add_assoc]
      rw [placedFrom, hend, hplaced]

/-! ## Offsets -/

theorem utf8Length_spelling_pos {t : Token} {spelling : List Char} (h : t.Spells spelling) :
    0 < Text.utf8Length spelling := by
  obtain ⟨c, cs, rfl, -⟩ := h.exists_cons
  exact Nat.lt_of_lt_of_le c.utf8Size_pos (Nat.le_add_right _ _)

/-- Tokens are placed between the start of the first gap and the end of the last spelling, one after
the other. -/
theorem placedFrom_pairwise {is : List Inscription} (h : ∀ i ∈ is, i.token.Spells i.spelling)
    (offset : Nat) :
    (placedFrom offset is).Pairwise (fun p q ↦ p.offset < q.offset) ∧
      ∀ p ∈ placedFrom offset is,
        offset ≤ p.offset ∧ p.offset < offset + Text.utf8Length (is.flatMap Inscription.text) := by
  induction is generalizing offset with
  | nil => exact ⟨.nil, List.forall_mem_nil _⟩
  | cons i is ih =>
    have hpos := utf8Length_spelling_pos (h i List.mem_cons_self)
    obtain ⟨hordered, hbounds⟩ :=
      ih (fun j hj ↦ h j (List.mem_cons_of_mem i hj)) (offset + Text.utf8Length i.text)
    have htext : Text.utf8Length i.text = Text.utf8Length i.gap + Text.utf8Length i.spelling :=
      Text.utf8Length_append _ _
    rw [placedFrom, List.flatMap_cons, Text.utf8Length_append, List.pairwise_cons,
      List.forall_mem_cons]
    dsimp only
    refine ⟨⟨fun q hq ↦ ?_, hordered⟩, ⟨Nat.le_add_right _ _, ?_⟩, fun q hq ↦ ?_⟩
    · have hq := hbounds q hq
      omega
    · omega
    · have hq := hbounds q hq
      omega

theorem stops_pairwise {l : Layout} (h : l.IsProper) :
    l.stops.Pairwise fun a b ↦ a.offset < b.offset := by
  obtain ⟨hordered, hbounds⟩ := placedFrom_pairwise h.spells 0
  rw [stops, List.pairwise_append, List.pairwise_map]
  refine ⟨hordered, List.pairwise_singleton _ _, fun a ha b hb ↦ ?_⟩
  obtain ⟨p, hp, rfl⟩ := List.mem_map.mp ha
  obtain rfl := List.mem_singleton.mp hb
  have hp := hbounds p hp
  rw [text, Text.utf8Length_append]
  dsimp only
  omega

/-! ## The reader and the writer -/

theorem stops_eq_ok_iff {source : String} {found : List Stop} :
    Query.stops source = .ok found ↔
      ∃ l : Layout, l.IsProper ∧ l.text = source.toList ∧ l.stops = found := by
  rw [Query.stops, tokens, map_eq_ok_iff]
  constructor
  · rintro ⟨placed, hplaced, rfl⟩
    obtain ⟨l, hproper, htext, rfl⟩ := exists_of_tokensFrom 0 source.toList placed hplaced
    exact ⟨l, hproper, htext, by rw [stops, htext]⟩
  · rintro ⟨l, hproper, htext, rfl⟩
    refine ⟨placedFrom 0 l.inscriptions, ?_, by rw [stops, htext]⟩
    rw [← htext]
    exact tokensFrom_text hproper 0

/-- **Reading a query undoes writing its tokens down.** However tokens are laid out, as long as each
is spelled right, only separators stand around them, and none run together, the text is read as
these tokens, each at the byte at which it was written, and the end after the last byte. Conversely
every text that can be read is laid out like that, its tokens come one after the other, and the end
follows them at the size of the text. A word that consists of word characters and spells no keyword,
and every other token, can be written by the spelling in which quotes and backslashes are
escaped. -/
theorem stops_layout :
    (∀ l : Layout, l.IsProper → Query.stops (.ofList l.text) = .ok l.stops) ∧
    (∀ source found, Query.stops source = .ok found →
      found.Pairwise (fun a b ↦ a.offset < b.offset) ∧
      found.getLast? = some ⟨none, source.utf8ByteSize⟩ ∧
      ∃ l : Layout, l.IsProper ∧ l.text = source.toList ∧ l.stops = found) ∧
    ∀ t : Token, t.IsWritable → t.Spells t.spelling := by
  refine ⟨fun l hproper ↦ ?_, fun source found h ↦ ?_, fun t ↦ Token.spells_spelling⟩
  · exact stops_eq_ok_iff.mpr ⟨l, hproper, String.toList_ofList.symm, rfl⟩
  · obtain ⟨l, hproper, htext, rfl⟩ := stops_eq_ok_iff.mp h
    refine ⟨stops_pairwise hproper, ?_, l, hproper, htext, rfl⟩
    rw [stops, List.getLast?_concat, htext, Text.utf8Length_toList]

/-- A query without needless gaps, in which a quoted text is spelled with an escaped quote and a
backslash that stands for itself, and a sign is kept from the one that would complete it. -/
theorem stops_layout_awkward :
    let l : Layout :=
      ⟨[⟨[' '], "nodes".toList, .keyword (.kind .node)⟩,
        ⟨['\t'], "with".toList, .keyword .withClause⟩,
        ⟨[], "\"é\\\"\\d\"".toList, .quoted "é\"\\d"⟩, ⟨[], "!=".toList, .symbol .notEqual⟩,
        ⟨['\r', '\n'], "ß".toList, .word "ß"⟩, ⟨[], "<".toList, .symbol (.comparison .less)⟩,
        ⟨[' '], "=".toList, .symbol .equal⟩, ⟨[], "or".toList, .keyword .or⟩], [' ']⟩
    l.IsProper ∧ Query.stops " nodes\twith\"é\\\"\\d\"!=\r\nß< =or " = .ok l.stops ∧
      l.stops.map (·.offset) = [1, 7, 11, 19, 23, 25, 27, 28, 31] := by
  intro l
  have hproper : l.IsProper := by
    refine ⟨by simp [l, isSeparator], by simp [l, isSeparator], ?_, by decide⟩
    have hquotes : Quotes "é\\\"\\d".toList "é\"\\d".toList :=
      .plain (by decide) (.escaped (by decide) (.kept (by decide) .nil))
    have hword : (Token.word "ß").IsWritable := by decide
    simp only [l, List.forall_mem_cons]
    exact ⟨.keyword _, .keyword _, .quoted hquotes, .symbol _, .word hword, .symbol _, .symbol _,
      .keyword _, List.forall_mem_nil _⟩
  exact ⟨hproper, stops_layout.1 l hproper, by decide⟩

end Layout

end Query

end TagQuery
