import Almanac.Report
import Almanac.Text.CaseMap
import Almanac.Text.Sorted

/-!
# Queries over dated events

Three questions are asked of a list of dated events: which fall on a given day, which pass a
filter, and which tags they carry.

A filter has three parts, each optional. A category keeps the events of that category; `all`
keeps every event, and any other choice than `all`, `historical` and `cultural` is refused.
Wanted tags keep the events that carry at least one of them; they arrive as a collection whose
members are the wanted tags (a text is the collection of its characters), and an empty one
keeps every event. A search text, trimmed and lower-cased, keeps the events whose title,
description or one of whose tags contains it, lower-cased; an empty one keeps every event.
The parts are checked in that order before any event is looked at.

The tags of a list of events are listed sorted, each once.
-/

namespace Almanac

namespace Text

/-- Whether a list of characters occurs as a contiguous piece of another. -/
def occursIn (needle : List Char) : List Char → Bool
  | [] => needle.isEmpty
  | c :: rest => needle.isPrefixOf (c :: rest) || occursIn needle rest

/-- Whether a text occurs inside another. -/
def contains (hay needle : String) : Bool := occursIn needle.toList hay.toList

example : contains "hello" "ll" = true := by decide
example : contains "hello" "" = true := by decide
example : contains "" "a" = false := by decide

end Text

/-- Which events a filter keeps. -/
structure Filter where
  /-- The category to keep, or `none` for all. -/
  category : Option String := none
  /-- The wanted tags, or `none` when no tags are wanted. Only texts can match a tag. -/
  tags : Option (List Value) := none
  /-- The trimmed, lower-cased search text; empty keeps every event. -/
  needle : String := ""

namespace Filter

/-- The names of the categories. -/
def categories : List String := ["historical", "cultural"]

/-- The filter that three given values describe: a category, wanted tags and a search text. -/
def ofValues? (category tags search : Value) : Except Fault Filter := do
  let category ← match category with
    | .str "all" => pure none
    | .str c => if categories.contains c then pure (some c) else throw (.badCategory category)
    | v => throw (.badCategory v)
  let tags ← if tags.truthy then do
      let members ← tags.members
      match members.find? (!·.isHashable) with
      | some v => throw (Fault.unhashable v.typeName)
      | none => pure (some members)
    else pure none
  let needle ← match search with
    | .str s => pure (Text.lower (Text.trimBlank s))
    | v => throw (Fault.noAttribute v.typeName "strip")
  pure { category, tags, needle }

/-- Whether a definition carries one of the wanted tags. -/
def tagged (wanted : List Value) (ev : Definition) : Bool :=
  wanted.any fun w => match w with
    | .str s => ev.tags.contains s
    | _ => false

/-- Whether a definition's title, description or one of its tags contains the search text. -/
def found (needle : String) (ev : Definition) : Bool :=
  Text.contains (Text.lower ev.title) needle ||
    Text.contains (Text.lower ev.description) needle ||
    ev.tags.any fun t => Text.contains (Text.lower t) needle

/-- Whether a filter keeps a definition. -/
def keeps (f : Filter) (ev : Definition) : Bool :=
  (match f.category with
    | some c => ev.category == c
    | none => true) &&
  (match f.tags with
    | some wanted => tagged wanted ev
    | none => true) &&
  (f.needle.isEmpty || found f.needle ev)

end Filter

namespace Occurrence

/-- The events that fall on a day. -/
def onDay (events : List Occurrence) (d : Date) : List Occurrence :=
  events.filter fun e => e.date.key == d.key

/-- The events a filter keeps. -/
def filtered (events : List Occurrence) (f : Filter) : List Occurrence :=
  events.filter fun e => f.keeps e.definition

/-- The tags the events carry, sorted, each once. -/
def tags (events : List Occurrence) : List String :=
  Text.sortedDistinct (events.flatMap (·.definition.tags))

end Occurrence

end Almanac
