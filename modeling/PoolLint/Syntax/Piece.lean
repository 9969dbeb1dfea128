import PoolLint.Syntax.Token

/-! Trees while they are put together. The comments and line continuations in front of a tree belong
to what is built around it; between the parts of a construct they become parts of their own. -/
namespace PoolLint.Syntax

structure Piece where
  layout : String
  extras : List Node
  node : Node
  deriving Inhabited

namespace Piece

def ofToken (t : Token) (kind : Kind) : Piece := ⟨t.layout, t.extras, t.node kind .plain⟩

def kind (p : Piece) : Kind := p.node.kind

def as (p : Piece) (role : Role) : Piece := { p with node := p.node.withRole role }

def withKind (p : Piece) (kind : Kind) : Piece := { p with node := p.node.withKind kind }

/-- A construct without parts, as the empty body of a statement. -/
def empty (kind : Kind) (place : Position) : Piece := ⟨"", [], .mk kind .plain "" ⟨place, place⟩ []⟩

/-- The text of parts behind the first one, with what lies between them. -/
def textBehind (parts : List Piece) : String :=
  parts.foldl (fun text p => text ++ p.layout ++ p.node.text) ""

/-- A construct of a first part and further ones. -/
def build (kind : Kind) (first : Piece) (rest : List Piece) : Piece where
  layout := first.layout
  extras := first.extras
  node := .mk kind .plain (first.node.text ++ textBehind rest)
    ⟨first.node.span.start, (rest.getLast?.getD first).node.span.stop⟩
    (first.node :: rest.flatMap fun p => p.extras ++ [p.node])

def ofParts (kind : Kind) : List Piece → Piece
  | [] => empty kind Position.start
  | first :: rest => build kind first rest

end Piece
end PoolLint.Syntax
