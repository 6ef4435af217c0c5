import Stencil.Block
import Stencil.Filter.Standard
import Stencil.Rendering

/-!
# Templates

A source is compiled once and rendered any number of times.  A template keeps
the configuration it was compiled with.
-/

namespace Stencil

structure Template where
  nodes : List Node
  config : Config

namespace Template

/-- Compiles a source, with the filters and tags of a configuration. -/
def compile (config : Config) (source : String) : Except Error Template :=
  match Node.compile config source.toList with
  | .ok nodes => .ok ⟨nodes, config⟩
  | .error failure =>
      .error (failure.content.toError source.toList failure.position)

/-- The scope and the output after rendering a template against data at a time. -/
def run (template : Template) (data : Context) (now : Moment) : Except Fault Rendering :=
  Node.renderBody template.config template.nodes ⟨.start data now, ""⟩

def render (template : Template) (data : Context) (now : Moment) : Except Fault String :=
  (template.run data now).map Rendering.output

end Template

/-- A place to which bytes are written: it takes a number of them, if limited, and then fails. -/
structure Sink where
  limit : Option Nat
  failure : Error

namespace Sink

/-- The bytes that arrive, and the error if these are not all. -/
def write (sink : Sink) (bytes : List UInt8) : List UInt8 × Except Error Unit :=
  match sink.limit with
  | none => (bytes, .ok ())
  | some limit =>
      (bytes.take limit, if bytes.length ≤ limit then .ok () else .error sink.failure)

end Sink

namespace Template

/-- Renders a template to a sink: the bytes that arrive, and the error if these are not all. -/
def renderTo (template : Template) (data : Context) (now : Moment) (sink : Sink) :
    Except Fault (List UInt8 × Except Error Unit) :=
  (template.render data now).map fun output => sink.write output.toUTF8.toList

end Template

end Stencil
