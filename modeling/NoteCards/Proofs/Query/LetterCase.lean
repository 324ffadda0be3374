import NoteCards.Note.Document
import NoteCards.Proofs.Query.Terms
import NoteCards.Proofs.Text.LetterCase

/-!
# The case of letters does not matter

A query and a document are both read in lower case, but each of them is cut first: the line into
tokens, with marks in any case, and a label out of what is around it. Cutting commutes with writing
small, step by step (`scan?_inSmall`), and lower case undoes the difference. So two lines that
differ in the case of `A` to `Z` alone give one query, two raw documents one document, and every
answer is the same (`letterCase_ignored`).
-/

namespace NoteCards

open NoteCards.Text

theorem dropHash_inSmall (s : List Char) : dropHash (inSmall s) = inSmall (dropHash s) := by
  have hhash : (inSmall s).head? = some '#' ↔ s.head? = some '#' :=
    head?_inSmall_eq_iff (by decide)
  by_cases hhead : s.head? = some '#'
  · obtain ⟨rest, rfl⟩ := List.head?_eq_some_iff.1 hhead
    rfl
  · rw [dropHash_eq_self_iff.2 hhead, dropHash_eq_self_iff.2 (mt hhash.1 hhead)]

def Body.inSmall : Body → Body
  | .quoted inside => .quoted (Text.inSmall inside)
  | .bare word => .bare (Text.inSmall word)

theorem Body.content_inSmall (body : Body) :
    body.inSmall.content = Text.inSmall body.content := by
  cases body with
  | quoted inside => exact trim_inSmall inside
  | bare word => rfl

namespace Token

def inSmall (token : Token) : Token :=
  { token with body := token.body.inSmall }

/-! ### Scanning a text in small letters -/

theorem splitSign_inSmall (s : List Char) :
    splitSign (Text.inSmall s) = ((splitSign s).1, Text.inSmall (splitSign s).2) := by
  have hminus : (Text.inSmall s).head? = some '-' ↔ s.head? = some '-' :=
    head?_inSmall_eq_iff (by decide)
  by_cases hhead : s.head? = some '-'
  · obtain ⟨rest, rfl⟩ := List.head?_eq_some_iff.1 hhead
    rfl
  · rw [splitSign_of_head?_ne hhead, splitSign_of_head?_ne (mt hminus.1 hhead)]

theorem afterMark?_inSmall (mark s : List Char) :
    afterMark? mark (Text.inSmall s) = (afterMark? mark s).map Text.inSmall := by
  induction mark generalizing s with
  | nil => rfl
  | cons m mark ih =>
    cases s with
    | nil => rfl
    | cons c s =>
      rw [inSmall_cons, afterMark?, afterMark?, toLower_toLower, ih]
      split <;> rfl

theorem splitScope_inSmall (s : List Char) :
    splitScope (Text.inSmall s) = ((splitScope s).1, Text.inSmall (splitScope s).2) := by
  rw [splitScope, splitScope, afterMark?_inSmall, afterMark?_inSmall]
  cases afterMark? Scope.tag.mark s with
  | some rest => rfl
  | none => cases afterMark? Scope.path.mark s <;> rfl

theorem splitQuote?_inSmall (s : List Char) :
    splitQuote? (Text.inSmall s) =
      (splitQuote? s).map fun (inside, after) => (Text.inSmall inside, Text.inSmall after) := by
  induction s with
  | nil => rfl
  | cons c s ih =>
    have hquote : c.toLower = '"' ↔ c = '"' := toLower_eq_iff (by decide)
    rw [inSmall_cons, splitQuote?, splitQuote?, if_congr hquote rfl rfl, ih]
    split
    · rfl
    · cases splitQuote? s <;> rfl

theorem splitWord_inSmall (s : List Char) :
    splitWord (Text.inSmall s) =
      (Text.inSmall (splitWord s).1, Text.inSmall (splitWord s).2) := by
  have hblank : (fun c => !isBlank c) ∘ Char.toLower = fun c => !isBlank c := by
    funext c
    rw [Function.comp_apply, isBlank_toLower]
  rw [splitWord, Text.inSmall, List.takeWhile_map, List.dropWhile_map, hblank]
  rfl

theorem scanBody?_of_head?_ne {s : List Char} (hs : s.head? ≠ some '"') :
    scanBody? s = some (.bare (splitWord s).1, (splitWord s).2) := by
  unfold scanBody?
  split
  · simp at hs
  · rfl

theorem scanBody?_inSmall (s : List Char) :
    scanBody? (Text.inSmall s) =
      (scanBody? s).map fun (body, rest) => (body.inSmall, Text.inSmall rest) := by
  have hquote : (Text.inSmall s).head? = some '"' ↔ s.head? = some '"' :=
    head?_inSmall_eq_iff (by decide)
  by_cases hhead : s.head? = some '"'
  · obtain ⟨rest, rfl⟩ := List.head?_eq_some_iff.1 hhead
    change (splitQuote? (Text.inSmall rest)).map _ = ((splitQuote? rest).map _).map _
    rw [splitQuote?_inSmall, Option.map_map, Option.map_map]
    rfl
  · rw [scanBody?_of_head?_ne hhead, scanBody?_of_head?_ne (mt hquote.1 hhead),
      splitWord_inSmall]
    rfl

theorem scan?_inSmall (s : List Char) :
    scan? (Text.inSmall s) =
      (scan? s).map fun (token, rest) => (token.inSmall, Text.inSmall rest) := by
  rw [scan?_eq_map, scan?_eq_map, splitSign_inSmall, splitScope_inSmall, scanBody?_inSmall,
    Option.map_map, Option.map_map]
  rfl

end Token

theorem TokenLine.ofChars_inSmall (s : List Char) :
    ofChars (inSmall s) = ⟨(ofChars s).tokens.map Token.inSmall, (ofChars s).openQuote⟩ := by
  have hnil : ∀ t, trimStart (inSmall t) = [] ↔ trimStart t = [] := by
    intro t
    rw [trimStart_inSmall, inSmall, List.map_eq_nil_iff]
  have hsmall : ∀ t, Token.scan? (trimStart (inSmall t)) =
      (Token.scan? (trimStart t)).map fun (token, rest) => (token.inSmall, inSmall rest) := by
    intro t
    rw [trimStart_inSmall, Token.scan?_inSmall]
  induction s using ofChars.induct with
  | case1 s hstart =>
    rw [ofChars_of_trimStart_eq_nil hstart, ofChars_of_trimStart_eq_nil ((hnil s).2 hstart)]
    rfl
  | case2 s c text hstart hscan =>
    have hne : trimStart s ≠ [] := by simp [hstart]
    rw [← hstart] at hscan
    rw [ofChars_of_scan?_eq_none hne hscan,
      ofChars_of_scan?_eq_none (mt (hnil s).1 hne) (by rw [hsmall, hscan, Option.map_none])]
    rfl
  | case3 s c text hstart token rest hscan ih =>
    have hne : trimStart s ≠ [] := by simp [hstart]
    rw [← hstart] at hscan
    rw [ofChars_of_scan?_eq_some hne hscan,
      ofChars_of_scan?_eq_some (mt (hnil s).1 hne) (by rw [hsmall, hscan, Option.map_some]), ih]
    rfl

theorem Term.ofToken?_inSmall (token : Token) : ofToken? token.inSmall = ofToken? token := by
  have hscope : token.inSmall.scope = token.scope := rfl
  have hwanted : (if token.scope = .tag then dropHash token.inSmall.body.content
      else token.inSmall.body.content) =
      inSmall (if token.scope = .tag then dropHash token.body.content
        else token.body.content) := by
    rw [Token.inSmall, Body.content_inSmall, dropHash_inSmall]
    split <;> rfl
  rw [ofToken?, ofToken?, ofContent?, ofContent?, hscope, hwanted, inSmall, List.isEmpty_map,
    ← inSmall, lower_inSmall]
  rfl

theorem Query.termsOf_inSmall (s : List Char) : termsOf (inSmall s) = termsOf s := by
  rw [termsOf, TokenLine.ofChars_inSmall, List.filterMap_map]
  exact List.filterMap_congr fun token _ => Term.ofToken?_inSmall token

/-! ### Lines and documents -/

theorem toList_toLower (s : String) : s.toLower.toList = inSmall s.toList :=
  String.toList_map

theorem toLower_eq_toLower_iff {s t : String} :
    s.toLower = t.toLower ↔ inSmall s.toList = inSmall t.toList := by
  rw [← toList_toLower, ← toList_toLower, String.toList_inj]

theorem Query.parse_toLower (line : String) : parse line.toLower = parse line := by
  rw [parse, parse, toList_toLower, termsOf_inSmall]

theorem lowercase_toLower (s : String) : lowercase s.toLower = lowercase s := by
  rw [lowercase, lowercase, toList_toLower, lower_inSmall]

theorem aliasLabel?_toLower (s : String) : aliasLabel? s.toLower = aliasLabel? s := by
  rw [aliasLabel?, aliasLabel?, toList_toLower, trim_inSmall, lower_inSmall, inSmall,
    List.isEmpty_map]

theorem tagLabel?_toLower (s : String) : tagLabel? s.toLower = tagLabel? s := by
  rw [tagLabel?, tagLabel?, toList_toLower, trim_inSmall, dropHash_inSmall, lower_inSmall,
    inSmall, List.isEmpty_map]

theorem Document.ofRaw_toLower (path : String) (aliases tags : List String) :
    ofRaw path.toLower (aliases.map String.toLower) (tags.map String.toLower) =
      ofRaw path aliases tags := by
  have haliases : aliasLabel? ∘ String.toLower = aliasLabel? := funext aliasLabel?_toLower
  have htags : tagLabel? ∘ String.toLower = tagLabel? := funext tagLabel?_toLower
  rw [ofRaw, ofRaw, lowercase_toLower, List.filterMap_map, List.filterMap_map, haliases, htags]

/-- **Case does not matter.** Lines and raw documents that differ in the case of `A` to `Z` alone
give the same query, the same document and so the same answer. -/
theorem letterCase_ignored {line other path otherPath : String}
    {aliases otherAliases tags otherTags : List String}
    (hline : line.toLower = other.toLower) (hpath : path.toLower = otherPath.toLower)
    (haliases : aliases.map String.toLower = otherAliases.map String.toLower)
    (htags : tags.map String.toLower = otherTags.map String.toLower) :
    Query.parse line = Query.parse other ∧
      Document.ofRaw path aliases tags = .ofRaw otherPath otherAliases otherTags ∧
      (Query.parse line).accepts (.ofRaw path aliases tags) =
        (Query.parse other).accepts (.ofRaw otherPath otherAliases otherTags) := by
  have hquery : Query.parse line = Query.parse other := by
    rw [← Query.parse_toLower line, hline, Query.parse_toLower]
  have hdocument : Document.ofRaw path aliases tags = .ofRaw otherPath otherAliases otherTags := by
    rw [← Document.ofRaw_toLower path, hpath, haliases, htags, Document.ofRaw_toLower]
  exact ⟨hquery, hdocument, by rw [hquery, hdocument]⟩

theorem letterCase_ignored_street :
    "-TAG:\"#É A\" ΟΔΟΣ".toLower = "-tAg:\"#É a\" ΟΔΟΣ".toLower ∧
      "Notes/ΟΔΟΣa".toLower = "nOTES/ΟΔΟΣA".toLower ∧
      ["aΣB"].map String.toLower = ["AΣb"].map String.toLower ∧
      ["#K"].map String.toLower = ["#k"].map String.toLower ∧
      Query.parse "-TAG:\"#É A\" ΟΔΟΣ" = Query.parse "-tAg:\"#É a\" ΟΔΟΣ" ∧
      Document.ofRaw "Notes/ΟΔΟΣa" ["aΣB"] ["#K"] = .ofRaw "nOTES/ΟΔΟΣA" ["AΣb"] ["#k"] ∧
      (Query.parse "-TAG:\"#É A\" ΟΔΟΣ").accepts (.ofRaw "Notes/ΟΔΟΣa" ["aΣB"] ["#K"]) =
        (Query.parse "-tAg:\"#É a\" ΟΔΟΣ").accepts (.ofRaw "nOTES/ΟΔΟΣA" ["AΣb"] ["#k"]) := by
  have hline : "-TAG:\"#É A\" ΟΔΟΣ".toLower = "-tAg:\"#É a\" ΟΔΟΣ".toLower :=
    toLower_eq_toLower_iff.2 (by decide +kernel)
  have hpath : "Notes/ΟΔΟΣa".toLower = "nOTES/ΟΔΟΣA".toLower :=
    toLower_eq_toLower_iff.2 (by decide +kernel)
  have hname : "aΣB".toLower = "AΣb".toLower := toLower_eq_toLower_iff.2 (by decide +kernel)
  have htag : "#K".toLower = "#k".toLower := toLower_eq_toLower_iff.2 (by decide +kernel)
  have haliases : ["aΣB"].map String.toLower = ["AΣb"].map String.toLower :=
    congrArg (fun s => [s]) hname
  have htags : ["#K"].map String.toLower = ["#k"].map String.toLower :=
    congrArg (fun s => [s]) htag
  exact ⟨hline, hpath, haliases, htags, letterCase_ignored hline hpath haliases htags⟩

end NoteCards
