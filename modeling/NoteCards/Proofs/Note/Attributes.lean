import NoteCards.Note.Basic
import NoteCards.Proofs.Note.Hashtag
import NoteCards.Proofs.Query.Single
import NoteCards.Proofs.Text.Sigma

/-!
# Every attribute of a note is found

A note says its tags and aliases in many places, and each of them is made into a label on its way
into the document: without blanks at its ends, a tag without one `#`, in lower case. A query in
quotes makes the same of its text, so a tag or an alias is found by itself as it was written, and
rejected with a minus sign in front of it (`attributes_found`).

The path is different: it is kept with its blanks, and the query loses them before the lower case is
taken. That this finds the path all the same rests on blanks being neither letters nor passed over
when the form of a sigma is looked for. A tag of the body needs no quotes, for it has no blanks.
-/

namespace NoteCards

open NoteCards.Data NoteCards.Text

/-- A string that the front matter of a note holds under a key, alone or in an array. -/
def Note.Names (note : Note) (key s : String) : Prop :=
  ∃ frontMatter, note.frontMatter = some frontMatter ∧
    (frontMatter.get? key = some (.string s) ∨
      ∃ items, frontMatter.get? key = some (.array items) ∧ Value.string s ∈ items)

theorem mem_stringsUnder_iff {frontMatter : Value} {key s : String} :
    s ∈ stringsUnder frontMatter key ↔
      frontMatter.get? key = some (.string s) ∨
        ∃ items, frontMatter.get? key = some (.array items) ∧ Value.string s ∈ items := by
  have hstring : ∀ item : Value, item.string? = some s ↔ item = .string s := by
    intro item
    cases item <;> simp [Value.string?]
  unfold stringsUnder
  split
  · next t ht => simp [ht, eq_comm]
  · next items hitems => simp [hitems, List.mem_filterMap, hstring]
  · next hstring harray =>
    constructor
    · intro hmem
      simp at hmem
    · rintro (hfound | ⟨items, hfound, -⟩)
      · exact absurd hfound (hstring s)
      · exact absurd hfound (harray items)

namespace Note

variable {note : Note} {s label : String}

theorem mem_elim_iff {first second : String} :
    (s ∈ note.frontMatter.elim [] fun frontMatter =>
        stringsUnder frontMatter first ++ stringsUnder frontMatter second) ↔
      note.Names first s ∨ note.Names second s := by
  unfold Names
  cases note.frontMatter with
  | none => simp
  | some frontMatter => simp [mem_stringsUnder_iff]

theorem mem_tags_of_names (hnames : note.Names "tags" s ∨ note.Names "tag" s)
    (hlabel : tagLabel? s = some label) : label ∈ note.toDocument.tags := by
  have hmem : s ∈ note.frontMatter.elim [] namedTags := mem_elim_iff.2 hnames
  exact LabelSet.mem_ofList.2
    (List.mem_append_left _ (List.mem_filterMap.2 ⟨s, hmem, hlabel⟩))

theorem mem_tags_of_loose (hmem : s ∈ note.looseTags) (hlabel : tagLabel? s = some label) :
    label ∈ note.toDocument.tags :=
  LabelSet.mem_ofList.2 (List.mem_append_right _ (List.mem_filterMap.2 ⟨s, hmem, hlabel⟩))

theorem mem_aliases_of_names (hnames : note.Names "aliases" s ∨ note.Names "alias" s)
    (hlabel : aliasLabel? s = some label) : label ∈ note.toDocument.aliases := by
  have hmem : s ∈ note.frontMatter.elim [] namedAliases := mem_elim_iff.2 hnames
  exact LabelSet.mem_ofList.2 (List.mem_filterMap.2 ⟨s, hmem, hlabel⟩)

end Note

/-! ### Labels are found by themselves -/

section Label

variable {document : Document} {label : String} {negated : Bool}

theorem LabelSet.any_of_mem {labels : LabelSet} {test : String → Bool} (hmem : label ∈ labels)
    (htest : test label = true) : labels.any test = true :=
  List.any_eq_true.2 ⟨label, hmem, htest⟩

theorem tagTerm_foundIn_of_mem (hmem : label ∈ document.tags) :
    Term.foundIn ⟨.tag, label, negated⟩ document = true :=
  LabelSet.any_of_mem hmem (occursIn_iff_isInfix.2 List.infix_rfl)

theorem textTerm_foundIn_of_mem (hmem : label ∈ document.aliases) :
    Term.foundIn ⟨.text, label, negated⟩ document = true := by
  have hany : document.aliases.any (fun text => occursIn label.toList text.toList) = true :=
    LabelSet.any_of_mem hmem (occursIn_iff_isInfix.2 List.infix_rfl)
  simp only [Term.foundIn, hany, Bool.or_true]

end Label

namespace Hashtag

/-- A tag of a body is made of tag characters, and of at least one. -/
theorem mem_inBody {body tag : String} (hmem : tag ∈ inBody body) :
    tag.toList ≠ [] ∧ ∀ c ∈ tag.toList, isTagChar c = true := by
  obtain ⟨run, hrun, rfl⟩ := List.mem_map.1 hmem
  obtain ⟨text, -, hline⟩ := List.mem_flatMap.1 hrun
  obtain ⟨places, -, hplaces, hruns⟩ := ofLine_eq_map_places text
  rw [hruns] at hline
  obtain ⟨place, hplace, rfl⟩ := List.mem_map.1 hline
  rw [String.toList_ofList]
  exact ⟨((hplaces place).1 hplace).1.run_ne_nil, fun c hc => List.mem_takeWhile_imp hc⟩

theorem isBlank_eq_false_of_isTagChar {c : Char} (htag : isTagChar c = true) :
    isBlank c = false := by
  by_contra hblank
  rw [Bool.not_eq_false] at hblank
  have hneither : (!letterRanges.covers c.toNat && !numeralRanges.covers c.toNat &&
      c.toNat != 0x5F && c.toNat != 0x2F && c.toNat != 0x2D) = true :=
    forall_isBlank (p := fun code => !letterRanges.covers code && !numeralRanges.covers code &&
      code != 0x5F && code != 0x2F && code != 0x2D) (by decide +kernel) hblank
  simp only [Bool.and_eq_true, Bool.not_eq_true', bne_iff_ne] at hneither
  obtain ⟨⟨⟨⟨hletter, hnumeral⟩, hscore⟩, hslash⟩, hdash⟩ := hneither
  simp only [isTagChar, isLetter, isNumeral, hletter, hnumeral, Bool.false_or, Bool.or_eq_true,
    decide_eq_true_eq] at htag
  rcases htag with (rfl | rfl) | rfl
  · exact hscore rfl
  · exact hslash rfl
  · exact hdash rfl

end Hashtag

/-! ### Asking for a text in quotes -/

section Quoted

variable {s line : String} {wanted : List Char} {document : Document}

theorem Query.picks_of_quoted {scope : Scope} (hquote : '"' ∉ s.toList)
    (hline : line.toList = scope.mark ++ (Body.quoted s.toList).text)
    (hwanted : (if scope = .tag then dropHash (trim s.toList) else trim s.toList) = wanted)
    (hne : wanted ≠ [])
    (hfound : Term.foundIn ⟨scope, String.ofList (lower wanted), false⟩ document = true) :
    Query.Picks line document :=
  Query.picks_of_body (fun negated => quoted_wellFormed negated scope hquote) hline hwanted hne
    hfound

theorem tagQuoted_picks (hquote : '"' ∉ s.toList) (hsome : (tagLabel? s).isSome)
    (hmem : ∀ label, tagLabel? s = some label → label ∈ document.tags) :
    Query.Picks ("tag:\"" ++ s ++ "\"") document := by
  have hne : dropHash (trim s.toList) ≠ [] := by
    obtain ⟨label, hlabel⟩ := Option.isSome_iff_exists.1 hsome
    exact (labelOf?_eq_some_iff.1 hlabel).1
  have hlabel : tagLabel? s = some (String.ofList (lower (dropHash (trim s.toList)))) := by
    rw [tagLabel?_eq_labelOf?, labelOf?_of_ne_nil hne]
  exact Query.picks_of_quoted hquote (toList_quoted .tag (by rfl) s) rfl hne
    (tagTerm_foundIn_of_mem (hmem _ hlabel))

theorem textQuoted_picks (hquote : '"' ∉ s.toList) (hne : trim s.toList ≠ [])
    (hmem : ∀ label, aliasLabel? s = some label → label ∈ document.aliases) :
    Query.Picks ("\"" ++ s ++ "\"") document := by
  have hlabel : aliasLabel? s = some (String.ofList (lower (trim s.toList))) := by
    rw [aliasLabel?_eq_labelOf?, labelOf?_of_ne_nil hne]
  exact Query.picks_of_quoted hquote (toList_quoted .text (by rfl) s) rfl hne
    (textTerm_foundIn_of_mem (hmem _ hlabel))

theorem pathQuoted_picks (hquote : '"' ∉ s.toList) (hne : trim s.toList ≠ [])
    (hpath : document.path = lowercase s) : Query.Picks ("path:\"" ++ s ++ "\"") document := by
  have hfound : Term.foundIn ⟨.path, String.ofList (lower (trim s.toList)), false⟩ document =
      true := by
    have hpart := occursIn_iff_isInfix.2 (lower_trim_isInfix s.toList)
    simpa only [Term.foundIn, hpath, toList_lowercase, String.toList_ofList] using hpart
  exact Query.picks_of_quoted hquote (toList_quoted .path (by rfl) s) rfl hne hfound

end Quoted

theorem tagWord_picks {word : String} {document : Document} (hne : word.toList ≠ [])
    (htag : ∀ c ∈ word.toList, Hashtag.isTagChar c = true)
    (hmem : ∀ label, tagLabel? word = some label → label ∈ document.tags) :
    Query.Picks ("tag:" ++ word) document := by
  have hplain : ∀ c ∈ word.toList, isBlank c = false := fun c hc =>
    Hashtag.isBlank_eq_false_of_isTagChar (htag c hc)
  -- no mark of the query language is a tag character
  have hstart : ∀ c, Hashtag.isTagChar c = false → word.toList.head? ≠ some c := by
    intro c hother hhead
    have hin := htag c (List.mem_of_mem_head? hhead)
    rw [hother] at hin
    exact Bool.false_ne_true hin
  have htrim : trim word.toList = word.toList := trim_eq_self_iff.2 (isTrimmed_of_forall hplain)
  have hhash : dropHash word.toList = word.toList :=
    dropHash_eq_self_iff.2 (hstart '#' (by decide +kernel))
  have hlabel : tagLabel? word = some (String.ofList (lower word.toList)) := by
    rw [tagLabel?_eq_labelOf?, htrim, hhash, labelOf?_of_ne_nil hne]
  exact Query.picks_of_body
    (fun negated => bare_wellFormed negated (by decide) hplain (hstart '"' (by decide +kernel)))
    (toList_tagWord word) hhash hne (tagTerm_foundIn_of_mem (hmem _ hlabel))

/-- **Every attribute is found.** A note is found by each of its tags in quotes, by each tag of its
body as it stands, by each of its aliases and by its path; and with a minus sign in front, each of
these queries rejects it. -/
theorem attributes_found (note : Note) :
    (∀ g : String, note.Names "tags" g ∨ note.Names "tag" g ∨ g ∈ note.tags → '"' ∉ g.toList →
        (tagLabel? g).isSome → Query.Picks ("tag:\"" ++ g ++ "\"") note.toDocument) ∧
      (∀ body, note.body = some body → ∀ word ∈ Hashtag.inBody body,
        Query.Picks ("tag:" ++ word) note.toDocument) ∧
      (∀ a : String, note.Names "aliases" a ∨ note.Names "alias" a → trim a.toList ≠ [] →
        '"' ∉ a.toList → Query.Picks ("\"" ++ a ++ "\"") note.toDocument) ∧
      (trim note.path.toList ≠ [] → '"' ∉ note.path.toList →
        Query.Picks ("path:\"" ++ note.path ++ "\"") note.toDocument) := by
  refine ⟨?_, ?_, ?_, ?_⟩
  · intro g hg hquote hsome
    refine tagQuoted_picks hquote hsome fun label hlabel => ?_
    rcases hg with htags | htag | hlisted
    · exact Note.mem_tags_of_names (.inl htags) hlabel
    · exact Note.mem_tags_of_names (.inr htag) hlabel
    · exact Note.mem_tags_of_loose (List.mem_append_left _ hlisted) hlabel
  · intro body hbody word hword
    obtain ⟨hne, htag⟩ := Hashtag.mem_inBody hword
    have hloose : word ∈ note.looseTags := by
      rw [Note.looseTags, hbody]
      exact List.mem_append_right _ hword
    exact tagWord_picks hne htag fun label hlabel => Note.mem_tags_of_loose hloose hlabel
  · intro a ha hne hquote
    exact textQuoted_picks hquote hne fun label hlabel => Note.mem_aliases_of_names ha hlabel
  · intro hne hquote
    exact pathQuoted_picks hquote hne rfl

/-- A note with an attribute of each kind: blanks around the path and the alias, upper case in all
of them, and capital sigmas at the ends of words. -/
def hillNote : Note where
  path := " ΛΟΦΟΣ "
  frontMatter := some (.object
    [("tags", .array [.integer 3, .string " #Stone"]), ("alias", .string " ΣΙΣΥΦΟΣ ")])
  tags := ["ΜΥΘΟΣ"]
  body := some "uphill #Again/2"

theorem attributes_found_hillNote :
    Query.Picks ("tag:\"" ++ " #Stone" ++ "\"") hillNote.toDocument ∧
      Query.Picks ("tag:\"" ++ "ΜΥΘΟΣ" ++ "\"") hillNote.toDocument ∧
      Query.Picks ("tag:" ++ "Again/2") hillNote.toDocument ∧
      Query.Picks ("\"" ++ " ΣΙΣΥΦΟΣ " ++ "\"") hillNote.toDocument ∧
      Query.Picks ("path:\"" ++ " ΛΟΦΟΣ " ++ "\"") hillNote.toDocument := by
  have hstone : hillNote.Names "tags" " #Stone" :=
    ⟨_, rfl, .inr ⟨_, by rfl, List.mem_cons_of_mem _ (List.mem_singleton.2 rfl)⟩⟩
  have hmyth : "ΜΥΘΟΣ" ∈ hillNote.tags := List.mem_singleton.2 rfl
  have hname : hillNote.Names "alias" " ΣΙΣΥΦΟΣ " := ⟨_, rfl, .inl (by rfl)⟩
  have hword : "Again/2" ∈ Hashtag.inBody "uphill #Again/2" := by decide +kernel
  obtain ⟨htags, hwords, haliases, hpath⟩ := attributes_found hillNote
  refine ⟨?_, ?_, ?_, ?_, ?_⟩
  · exact htags _ (.inl hstone) (by decide) (by decide +kernel)
  · exact htags _ (.inr (.inr hmyth)) (by decide) (by decide +kernel)
  · exact hwords _ rfl _ hword
  · exact haliases _ (.inr hname) (by decide +kernel) (by decide)
  · exact hpath (by decide +kernel) (by decide)

end NoteCards
