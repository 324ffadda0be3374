import NoteCards.Json.Reader
import NoteCards.Note.Basic
import NoteCards.Settings.Basic
import NoteCards.Simulation.Placement

/-!
# Reading records

The shape of each record that is read. Settings may leave out any field; notes need a path; all
other records need all of their fields.
-/

namespace NoteCards

open NoteCards.Json NoteCards.Json.RecordShape NoteCards.Text

def Display.shape : RecordShape Display where
  name := "DisplaySettings"
  fields := [
    optionalField "card_width" readFloat ({ · with cardWidth := · }),
    optionalField "card_height" readFloat ({ · with cardHeight := · }),
    optionalField "font_size" readFloat ({ · with fontSize := · }),
    optionalField "excerpt_lines" readWord32 ({ · with excerptLines := · }),
    optionalField "show_tags" readBool ({ · with showTags := · }),
    optionalField "show_arrows" readBool ({ · with showArrows := · })]
  initial := {}

def Forces.shape : RecordShape Forces where
  name := "ForceSettings"
  fields := [
    optionalField "repel_force" readFloat ({ · with repelForce := · }),
    optionalField "link_force" readFloat ({ · with linkForce := · }),
    optionalField "link_distance" readFloat ({ · with linkDistance := · }),
    optionalField "center_force" readFloat ({ · with centerForce := · })]
  initial := {}

def Settings.shape : RecordShape Settings where
  name := "Config"
  fields := [
    optionalField "display" Display.shape.read ({ · with display := · }),
    optionalField "forces" Forces.shape.read ({ · with forces := · })]
  initial := {}

/-- Reads a setting: any value may stand there, but it has to be a number or a truth value. -/
def Setting.read : Reader Setting := fun room node =>
  match readValue room node with
  | .ok (.integer n) => .ok (.number (.ofInt n))
  | .ok (.number x) => .ok (.number x)
  | .ok (.bool b) => .ok (.toggle b)
  | .ok _ => .error (.data (.noVariant "SettingValue"))
  | .error e => .error e

/-- The scope of a name, or the error that there is none of that name. -/
def Scope.ofVariant (name : String) : Except Error Scope :=
  match Scope.ofName? name with
  | some scope => .ok scope
  | none => .error (.data (.unknownVariant name (Scope.all.map Scope.name)))

/-- Fails at what follows the only member of an object that names a scope. -/
def Scope.afterVariant : Members → Except Error Unit
  | .closed => .ok ()
  | .cut .endOfObject _ => fail .endOfObject
  | _ => fail .expectedValue

/-- Reads a scope: its name, or an object with its name as the only key and `null` under it. -/
def Scope.read : Reader Scope := fun room node =>
  match node with
  | .string word => do Scope.ofVariant (← orFail word.value)
  | .object members => do
    let _ ← enter room
    match members with
    | .closed => fail .expectedValue
    | .cut read _ => fail read
    | .noKey found => mismatch found "variant identifier"
    | .member key value rest =>
      let scope ← Scope.ofVariant (← orFail key.value)
      match value with
      | .null => (afterVariant rest).map fun _ => scope
      | other => mismatch other "unit"
  | .broken .endOfWord _ => fail .expectedValue
  | .broken read _ => fail read
  | _ => fail .expectedValue

def Term.shape : RecordShape Term where
  name := "SearchTerm"
  fields := [
    requiredField "kind" Scope.read ({ · with scope := · }),
    requiredField "value" readString ({ · with value := · }),
    requiredField "negated" readBool ({ · with negated := · })]
  initial := ⟨.text, "", false⟩

def LabelSet.read : Reader LabelSet := fun room node =>
  (readList readString room node).map LabelSet.ofList

def Document.shape : RecordShape Document where
  name := "SearchableDocument"
  fields := [
    requiredField "path" readString ({ · with path := · }),
    requiredField "aliases" LabelSet.read ({ · with aliases := · }),
    requiredField "tags" LabelSet.read ({ · with tags := · })]
  initial := ⟨"", .empty, .empty⟩

def Parameters.shape : RecordShape Parameters where
  name := "LayoutParameters"
  fields := [
    requiredField "repulsion_strength" readFloat ({ · with repulsionStrength := · }),
    requiredField "link_distance" readFloat ({ · with linkDistance := · }),
    requiredField "link_strength" readFloat ({ · with linkStrength := · }),
    requiredField "center_strength" readFloat ({ · with centerStrength := · }),
    requiredField "collision_radius" readFloat ({ · with collisionRadius := · }),
    requiredField "many_body_distance_min" readFloat ({ · with manyBodyDistanceMin := · }),
    requiredField "many_body_distance_max" readFloat ({ · with manyBodyDistanceMax := · }),
    requiredField "alpha_decay" readFloat ({ · with alphaDecay := · }),
    requiredField "alpha_min" readFloat ({ · with alphaMin := · }),
    requiredField "velocity_decay" readFloat ({ · with velocityDecay := · }),
    requiredField "cooldown_ticks" readWord32 ({ · with cooldownTicks := · }),
    requiredField "cooldown_time_ms" readWord64 ({ · with cooldownTimeMs := · })]
  initial := ⟨0, 0, 0, 0, 0, 0, 0, 0, 0, 0, 0, 0⟩

def Point.shape : RecordShape Point where
  name := "Point"
  fields := [
    requiredField "x" readFloat ({ · with x := · }),
    requiredField "y" readFloat ({ · with y := · })]
  initial := ⟨0, 0⟩

def Viewport.shape : RecordShape Viewport where
  name := "Viewport"
  fields := [
    requiredField "width" readFloat ({ · with width := · }),
    requiredField "height" readFloat ({ · with height := · })]
  initial := ⟨0, 0⟩

def Note.shape : RecordShape Note where
  name := "NoteRecord"
  fields := [
    requiredField "path" readString ({ · with path := · }),
    optionalField "frontmatter" (readOptional readValue) ({ · with frontMatter := · }),
    optionalField "inline_tags" (readList readString) ({ · with tags := · }),
    optionalField "body" (readOptional readString) ({ · with body := · })]
  initial := { path := "" }

def Note.readAll (s : Source) : Except Error (List Note) :=
  readText (readList Note.shape.read) s

/-- Reads notes for searching. -/
def Note.readDocuments (s : Source) : Except Error (List Document) :=
  (Note.readAll s).map (·.map Note.toDocument)

end NoteCards
