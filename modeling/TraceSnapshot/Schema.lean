import TraceSnapshot.Ini.Outline
import TraceSnapshot.Role
import TraceSnapshot.Schema.Violation

/-!
# Schemas

A schema states for one kind of file which sections and keys it must have and what their
values must be like. It is checked against the outline of a file, before the file is read
exactly.
-/

namespace TraceSnapshot

/-- The sections or keys that a rule is about. -/
inductive Schema.Selector where
  | named (name : Text)
  | startingWith (start : Text)
  | every
  deriving DecidableEq, Repr

def Schema.Selector.selects (s : Selector) (name : Text) : Bool :=
  match s with
  | named expected => name == expected
  | startingWith start => start.isPrefixOf name
  | every => true

structure Schema.ValueRule where
  keys : Selector
  constraint : Constraint
  deriving DecidableEq, Repr

structure Schema.SectionRule where
  sections : Selector
  required : List Text
  values : List ValueRule
  deriving DecidableEq, Repr

structure Schema where
  required : List Text
  sections : List Schema.SectionRule
  deriving DecidableEq, Repr

namespace Schema

/-- The names of a list that a map does not have. -/
def absent {α : Type} (required : List Text) (m : OrderedMap Text α) : List Text :=
  required.filter fun name => !m.contains name

namespace SectionRule

def valueViolations (r : SectionRule) (name : Text) (pair : Text × Text) : List Violation :=
  (r.values.filter fun rule => rule.keys.selects pair.1 && !rule.constraint.accepts pair.2).map
    fun rule => ⟨[name, pair.1], .refused pair.2 rule.constraint⟩

/-- What a rule finds wrong with one section of an outline. -/
def violations (r : SectionRule) (name : Text) (pairs : OrderedMap Text Text) :
    List Violation :=
  if r.sections.selects name then
    ((absent r.required pairs).map fun key => ⟨[name], .missing key⟩) ++
      pairs.pairs.flatMap (r.valueViolations name)
  else
    []

end SectionRule

/-- All that is wrong with a file. -/
def violations (s : Schema) (o : Ini.Outline) : List Violation :=
  ((absent s.required o).map fun name => ⟨[], .missing name⟩) ++
    o.pairs.flatMap fun (name, pairs) => s.sections.flatMap fun r => r.violations name pairs

/-- A manifest has a version and a device list without empty paths. -/
def manifest : Schema where
  required := ["snapshot".toList, "device_list".toList]
  sections :=
    [⟨.named "snapshot".toList, ["version".toList], [⟨.named "version".toList, .nonEmpty⟩]⟩,
      ⟨.named "device_list".toList, [], [⟨.every, .nonEmpty⟩]⟩]

/-- A device has a name, and each of its dumps a file and an address. -/
def device : Schema where
  required := ["device".toList]
  sections :=
    [⟨.named "device".toList, ["name".toList], [⟨.named "name".toList, .nonEmpty⟩]⟩,
      ⟨.startingWith "dump".toList, ["file".toList, "address".toList],
        [⟨.named "file".toList, .nonEmpty⟩, ⟨.named "address".toList, .fits .numeral⟩]⟩]

/-- Trace metadata has a list of buffers that is not blank. -/
def trace : Schema where
  required := ["trace_buffers".toList]
  sections :=
    [⟨.named "trace_buffers".toList, ["buffers".toList],
      [⟨.named "buffers".toList, .fits .listItem⟩]⟩]

def ofRole : Role → Schema
  | .snapshot => manifest
  | .device => device
  | .trace => trace

/-- The violation to report in a file, none if the file is as the schema wants it. -/
def check (role : Role) (text : Text) : Option Violation :=
  Violation.foremost? ((ofRole role).violations (Ini.Outline.read text))

end Schema

end TraceSnapshot
