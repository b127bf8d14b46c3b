import UdsCatalog.Json.Basic
import UdsCatalog.Template.Library

/-!
Engines of templates. An engine keeps templates under their names and renders them with given values. What it
renders may depend on the moment, since a template may ask for the time or for a random number.
-/

namespace UdsCatalog.Generation

/-- An engine of templates. -/
structure Engine where
  /-- Templates under their names. -/
  Library : Type
  /-- What rendering sees beyond the templates and the given values. -/
  Moment : Type
  /-- A library without templates. -/
  empty : Library
  /-- Adds a template from text under a name. In messages the text is named by its source. -/
  add (library : Library) (name source text : String) : Except Template.Failure Unit × Library
  /-- Renders a template with the given values. -/
  render (library : Library) (moment : Moment) (name : String) (given : List (String × Json)) :
    Except Template.Failure String

/-- The engine of template libraries. The functions that templates call belong to the moment. -/
@[reducible] def Engine.standard : Engine where
  Library := Template.Library
  Moment := Template.Functions
  empty := Template.Library.empty
  add := Template.Library.add
  render := Template.Library.renderWith

end UdsCatalog.Generation
