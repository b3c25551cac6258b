import SearchKit.Engine.Construction

/-!
# Attributes by name

Every object has methods that read, assign and delete its attributes by name.  An attribute that
was assigned hides what the class of the object has under the same name.

* `Provider.attribute?`, `Component.attribute?`: the value of an attribute.
* `Component.assign`: a component with a further attribute.
* `AttributeCall.ofArguments?`: a call of one of the three methods.
-/

namespace SearchKit

/-! ### Calls -/

/-- A call of a method that reads, assigns or deletes an attribute. -/
inductive AttributeCall where
  | read (name : String)
  | assign (name : String) (v : Value)
  | delete (name : String)

/-- The call of a method by its name with arguments by place. -/
def AttributeCall.ofArguments? : String → List Value → Option AttributeCall
  | "__getattribute__", [.str name] => some (.read name)
  | "__setattr__", [.str name, v] => some (.assign name v)
  | "__delattr__", [.str name] => some (.delete name)
  | _, _ => none

/-! ### Providers -/

/-- The value of an attribute of a provider. -/
def Provider.attribute? (p : Provider) (name : String) : Option Value :=
  match name with
  | "__handle__" => some p.handle
  | "__type__" => some p.type
  | name => p.settings.get? name

/-- A provider without one of its attributes. -/
def Provider.unassign (p : Provider) (name : String) : Except Fault Provider :=
  if (p.settings.get? name).isSome then .ok { p with settings := p.settings.erase name }
  else .error .noPart

/-! ### Components -/

/-- The value of an attribute of a component. -/
def Component.attribute? (c : Component) (name : String) : Option Value :=
  match name with
  | "__handle__" => some c.handle
  | "__type__" => some c.type
  | "__native__" => some c.native
  | "__unpack__" => some c.unpack
  | name => c.settings.get? name

/-- A component with an attribute. -/
def Component.assign (c : Component) (name : String) (v : Value) : Except Fault Component :=
  match name with
  | "__handle__" => .ok { c with handle := v }
  | "__type__" => .ok { c with type := v }
  | "__native__" => .ok { c with native := v }
  | "__unpack__" => .ok { c with unpack := v }
  | "__class__" | "__dict__" => .error .wrongType
  | "__weakref__" => .error .noPart
  | name => .ok { c with settings := c.settings.set name v }

/-- A component without one of its attributes. -/
def Component.unassign (c : Component) (name : String) : Except Fault Component :=
  if (c.settings.get? name).isSome then .ok { c with settings := c.settings.erase name }
  else .error .noPart

end SearchKit
