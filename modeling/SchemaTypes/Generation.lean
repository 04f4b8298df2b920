import SchemaTypes.Document.Build
import SchemaTypes.Emission

/-! One generation: the catalog is read, the declarations are built and written, and whatever
happens the output is shut down and the catalog closed. -/
namespace SchemaTypes

/-- The answers of a catalog to the calls of one generation. A catalog fails as it likes. -/
structure Catalog where
  enums : Except Error (List EnumEntry)
  columns : Selection → Except Error (List Column)
  close : Except Error Unit

structure Report where
  enums : Nat
  tables : Nat
  columns : Nat
  deriving DecidableEq, Repr

namespace Generation

def emit (sink : Sink σ) (d : Document) : Action σ Unit := fun s =>
  let o := Emitter.document sink d (.start s)
  o.withState o.state.output

/-- Everything between taking over the output and the catalog and giving them back. -/
def pass (catalog : Catalog) (sink : Sink σ) (options : Options) : Action σ Report := do
  Action.ofExcept (options.validate.mapError .options)
  let enums ← Action.perform .listEnums catalog.enums
  let rows ← Action.perform (.listColumns options.selection) (catalog.columns options.selection)
  let columns := options.selection.apply rows
  let document ← Action.ofConsult (Document.build enums columns options)
  emit sink document
  return ⟨document.enums.length, document.tables.length, columns.length⟩

end Generation

/-- The report, or the first failure of the pass, the shutdown and the close. -/
def generate (catalog : Catalog) (sink : Sink σ) (options : Options) : Action σ Report := fun s =>
  let passed := Generation.pass catalog sink options s
  let (shut, s) := sink.shutdown passed.state
  let result := do
    let report ← passed.result
    shut.mapError fun m => .output (.refused m)
    catalog.close
    return report
  ⟨result, passed.effects ++ [.shutdown, .close], s⟩

end SchemaTypes
