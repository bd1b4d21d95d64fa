import SqlTemplate.Template.Piece

/-!
# Segments

The structure of a template: parts that are always written and optional blocks.  A part
is literal text or a slot, and optional blocks do not nest.

A block runs from an opening bracket to the first closing bracket after it.  It is
optional only if it has a slot.  Every other bracket is literal text: those around a
block without a slot, an opening bracket inside a block, a closing bracket outside, and
an opening bracket that is never closed.

Neighbouring texts are joined, and empty ones are left out.
-/

namespace SqlTemplate

/-- A part of a template. -/
inductive Part where
  /-- Literal text. -/
  | text (content : String)
  /-- A place that the text bound to an index fills. -/
  | slot (index : Index)
deriving DecidableEq

/-- A segment of a template. -/
inductive Segment where
  /-- A part that is written whatever happens. -/
  | always (part : Part)
  /-- Parts that are written only when every slot among them is bound. -/
  | optional (body : List Part)
deriving DecidableEq

/-- The index of a part that is a slot. -/
def Part.index? : Part → Option Index
  | .text _ => none
  | .slot index => some index

namespace Template

/-! ## Indexed pieces -/

/-- A piece of a template whose markers have their indices. -/
inductive IndexedPiece where
  | part (part : Part)
  | opening
  | closing
deriving DecidableEq

/-- Gives the markers among some pieces their indices, in order.  Markers without an index
are left out. -/
def indexedPieces : List Piece → List Index → List IndexedPiece
  | [], _ => []
  | .text content :: rest, indices => .part (.text content) :: indexedPieces rest indices
  | .opening :: rest, indices => .opening :: indexedPieces rest indices
  | .closing :: rest, indices => .closing :: indexedPieces rest indices
  | .marker _ :: rest, index :: indices => .part (.slot index) :: indexedPieces rest indices
  | .marker _ :: rest, [] => indexedPieces rest []

/-! ## Parts -/

/-- Parts with a part in front of them.  A text joins the text that follows it. -/
def consPart : Part → List Part → List Part
  | .slot index, parts => .slot index :: parts
  | .text content, parts =>
      if content = "" then parts
      else
        match parts with
        | .text next :: rest => .text (content ++ next) :: rest
        | _ => .text content :: parts

/-- Segments with a part in front of them. -/
def consSegment : Part → List Segment → List Segment
  | .slot index, segments => .always (.slot index) :: segments
  | .text content, segments =>
      if content = "" then segments
      else
        match segments with
        | .always (.text next) :: rest => .always (.text (content ++ next)) :: rest
        | _ => .always (.text content) :: segments

/-- A piece as a part, brackets being literal text. -/
def literal (brackets : Brackets) : IndexedPiece → Part
  | .part part => part
  | .opening => .text brackets.opening
  | .closing => .text brackets.closing

/-- Pieces as the parts of a block. -/
def blockParts (brackets : Brackets) (body : List IndexedPiece) : List Part :=
  (body.map (literal brackets)).foldr consPart []

/-- Pieces as parts in front of some segments. -/
def literally (brackets : Brackets) (body : List IndexedPiece) (segments : List Segment) :
    List Segment :=
  (body.map (literal brackets)).foldr consSegment segments

/-- Whether there is a slot among some pieces. -/
def hasSlot (body : List IndexedPiece) : Bool :=
  body.any fun piece =>
    match piece with
    | .part (.slot _) => true
    | _ => false

/-! ## Segments -/

/-- The segments of some pieces. -/
def segments (brackets : Brackets) : List IndexedPiece → List Segment
  | [] => []
  | .part part :: rest => consSegment part (segments brackets rest)
  | .closing :: rest => consSegment (.text brackets.closing) (segments brackets rest)
  | .opening :: rest =>
      let body := rest.takeWhile (· ≠ .closing)
      let tail := rest.dropWhile (· ≠ .closing)
      if tail.isEmpty then
        literally brackets (.opening :: body) []
      else
        let others := segments brackets (tail.drop 1)
        if hasSlot body then .optional (blockParts brackets body) :: others
        else literally brackets (.opening :: body ++ [.closing]) others
termination_by pieces => pieces.length
decreasing_by
  all_goals simp only [List.length_cons, List.length_drop]
  · omega
  · omega
  · have := (List.dropWhile_sublist (l := rest) (· ≠ .closing)).length_le
    omega

/-! ## Slots -/

/-- The slots of a segment, in order. -/
def slots : Segment → List Index
  | .always part => part.index?.toList
  | .optional body => body.filterMap Part.index?

/-- Whether every slot of an index is in an optional block. -/
def isConditional (segments : List Segment) (index : Index) : Bool :=
  !segments.contains (.always (.slot index))

/-! ## Writing -/

/-- A part with texts in place of slots. -/
def writePart (fill : Index → String) : Part → String
  | .text content => content
  | .slot index => fill index

/-- Parts with texts in place of slots. -/
def writeParts (fill : Index → String) (parts : List Part) : String :=
  String.join (parts.map (writePart fill))

/-- The canonical form of a segment: slots as tokens, and blocks in their brackets. -/
def canonicalSegment (brackets : Brackets) : Segment → String
  | .always part => writePart Index.token part
  | .optional body => brackets.opening ++ writeParts Index.token body ++ brackets.closing

/-- The canonical form of a template. -/
def canonical (brackets : Brackets) (segments : List Segment) : String :=
  String.join (segments.map (canonicalSegment brackets))

/-- Whether every slot of a block is bound. -/
def isBound (bound : Index → Option String) (body : List Part) : Bool :=
  (body.filterMap Part.index?).all fun index => (bound index).isSome

/-- A segment with the bound texts.  A block with a slot that is not bound is left out,
and such a slot outside of blocks is written as nothing. -/
def renderSegment (bound : Index → Option String) : Segment → String
  | .always part => writePart (fun index => (bound index).getD "") part
  | .optional body =>
      if isBound bound body then writeParts (fun index => (bound index).getD "") body else ""

/-- A template with the bound texts. -/
def render (bound : Index → Option String) (segments : List Segment) : String :=
  String.join (segments.map (renderSegment bound))

end Template

end SqlTemplate
