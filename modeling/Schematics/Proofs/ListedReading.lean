import Schematics.Proofs.TypedReading
import Schematics.Proofs.WrittenReals

namespace Schematics

variable {s : Schematic} {t : TypeId} {shape : Shape} {name text : String} {raw : Json} {v w : Value}

theorem Shape.writes_listingJson (h : shape.Writes text v) :
    v.listingJson.isScalar = true ∧ shape.Writes v.listingJson.scalarText v := by
  cases h with
  | true => exact ⟨rfl, Shape.Writes.true⟩
  | false => exact ⟨rfl, Shape.Writes.false⟩
  | int => exact ⟨rfl, .int (Decimal.readInt64?_eq_some_iff.1 (Decimal.readInt64?_toString _))⟩
  | string => exact ⟨rfl, .string⟩
  | @real _ x _ _ _ _ hx _ =>
    have hlisted : (Value.real x).listingJson = .real x := by rw [Value.listingJson, if_pos hx.finite]
    have hback : Decimal.readReal? (Json.realText x) = some x := readsBack_of_isFinite hx.finite
    obtain ⟨negative, q, htext, hq, hnearest, hsign⟩ := Decimal.readReal?_eq_some_iff_nearest.1 hback
    rw [hlisted]
    exact ⟨rfl, .real htext hq hnearest hsign⟩

theorem Schematic.Writes.listed (h : s.Writes t raw v) : s.Writes t v.listingJson v := by
  induction h with
  | scalar hd _ h =>
    obtain ⟨hscalar, hlisted⟩ := Shape.writes_listingJson h
    exact .scalar hd (Json.hasText_scalarText hscalar) hlisted
  | @array t element d items values hd hshape hl h ih =>
    have hitems : List.Forall₂ (fun _ v => s.Writes element v.listingJson v) items values :=
      List.forall₂_iff_zip.2 ⟨hl, fun hz => ih _ _ hz⟩
    have hlisted : List.Forall₂ (s.Writes element) (listingJsons values) values := by
      rw [listingJsons_eq_map, List.forall₂_map_left_iff, List.forall₂_same]
      intro v hv
      obtain ⟨_, -, hwrites⟩ := exists_of_forall₂_right hitems hv
      exact hwrites
    rw [Value.listingJson]
    exact Schematic.writes_array_iff.2 ⟨d, hd, element, hshape, values, hlisted, rfl⟩

namespace AttributeValue

theorem readDeclared_listingJson (h : readDeclared s (some t) name raw = .ok v) (other : String) :
    readDeclared s (some t) other v.listingJson = .ok v ∧
      ∀ w, readDeclared s (some t) other v.listingJson = .ok w → w.listingJson = v.listingJson := by
  have hwrites := (read_eq_ok_iff s t name raw).1 h
  have hback : readDeclared s (some t) other v.listingJson = .ok v :=
    (read_eq_ok_iff s t other v.listingJson).2 hwrites.listed
  refine ⟨hback, fun w hw => ?_⟩
  obtain rfl : v = w := Except.ok.inj (hback.symm.trans hw)
  rfl

end AttributeValue

namespace Schematic

def tables : Schematic :=
  (new "tables").run
    [.userDefinedType "Row" (.array BaseType.real), .userDefinedType "Table" (.array ⟨5⟩)]

theorem readDeclared_listingJson_tables :
    AttributeValue.readDeclared tables (some ⟨6⟩) "rows"
      (.array [.array [.string "15e-1", .string "-0", .int 7], .array []]) =
        .ok (.array ⟨6⟩ ⟨5⟩
          [.array ⟨5⟩ BaseType.real [.real 1.5, .real (-0.0), .real 7], .array ⟨5⟩ BaseType.real []]) ∧
    AttributeValue.readDeclared tables (some ⟨6⟩) "rows"
      (.array [.array [.real 1.5, .real (-0.0), .real 7], .array []]) =
        .ok (.array ⟨6⟩ ⟨5⟩
          [.array ⟨5⟩ BaseType.real [.real 1.5, .real (-0.0), .real 7], .array ⟨5⟩ BaseType.real []]) := by
  have hread : AttributeValue.readDeclared tables (some ⟨6⟩) "rows"
      (.array [.array [.string "15e-1", .string "-0", .int 7], .array []]) =
        .ok (.array ⟨6⟩ ⟨5⟩
          [.array ⟨5⟩ BaseType.real [.real 1.5, .real (-0.0), .real 7], .array ⟨5⟩ BaseType.real []]) := by
    rfl
  exact ⟨hread, (AttributeValue.readDeclared_listingJson hread "rows").1⟩

end Schematic

end Schematics
