import ProtoCrud.Generate.PackageFile
import ProtoCrud.Proofs.Generate.RecordText

/-!
# What the code of a service answers

The body of a method is read back from its tokens: it answers that it is not implemented, or it
calls a function of the handler and answers with a response. The response is the one that has been
made for the method, down to the fields that a literal names.
-/

namespace ProtoCrud.Generate

open Code Handler Schema

namespace Scanner

open Code.Scanner

def scalarTypes : List (String × ScalarType) :=
  [("bool>", .bool), ("i32>", .int32), ("i64>", .int64), ("u32>", .uint32), ("u64>", .uint64),
    ("f32>", .float), ("f64>", .double), ("String>", .string), ("Vec<u8>>", .bytes)]

def counter : Scanner Counter :=
  pick [("page.total", pure .total), ("page.page", pure .page), ("page.page_size", pure .pageSize)]

def responseValue : Scanner ResponseValue :=
  pick
    [("Some(record)", pure .record), ("page.items", pure .items), ("true", pure .success),
      ("<", do
        let type ← pick (scalarTypes.map fun (text, type) ↦ (text, pure type))
        plain "::try_from("
        let counter ← counter
        plain ").unwrap_or_default()"
        return .count counter type),
      ("", do
        let counter ← counter
        return .count counter counter.type)]

def responseInit : Scanner ResponseInit := do
  let field ← name
  plain ":"
  let value ← responseValue
  return ⟨field, value⟩

/-- Takes a value of the given type that is made from nothing or from its fields. -/
def madeResponse (output : List Token) : Scanner Response := do
  tokens output
  pick
    [("::default()", pure .default),
      ("\x7b", do
        let inits ← many responseInit.withComma
        pick
          [("\x7d", pure (.literal inits false)),
            ("..Default::default()\x7d", pure (.literal inits true))])]

def response (output : List Token) : Scanner Response :=
  fun given ↦
    match madeResponse output given with
    | some found => some found
    | none => pick [("record", pure .record), ("()", pure .nothing)] given

end Scanner

/-- What the body of a method does. -/
inductive Answer where
  | unimplemented (message : String)
  /-- It calls a function of the handler and holds what it returns, if that is anything. -/
  | delegated (held : Option String) (function : String) (response : Response)
  deriving DecidableEq

namespace Scanner

open Code.Scanner

def delegated (output : List Token) (held : Option String) : Scanner Answer := do
  let function ← name
  plain "(request.into_inner()).await?; Ok(Response::new("
  let response ← response output
  plain "))"
  return .delegated held function response

/-- Takes the body of a method that answers with the given type. -/
def answer (output : List Token) : Scanner Answer :=
  pick
    [("let _ = request; Err(Status::unimplemented(", do
        let message ← quoted
        plain "))"
        return .unimplemented message),
      ("let record = self.", delegated output (some "record")),
      ("let page = self.", delegated output (some "page")),
      ("self.", delegated output none)]

end Scanner
end ProtoCrud.Generate
