import ServiceSyntax.Vocabulary.Registry

/-!
# The packaged vocabulary

The terms that diagnostics offer in each construct unless they are told of more.
-/

namespace ServiceSyntax.Registry

/-- The vocabulary that is always there. -/
def packaged : Registry where
  entries :=
    [("outer", ["include", "from", "import", "service", "inputPort", "outputPort",
       "interface", "type", "define", "constants", "execution", "cset", "embedded", "courier",
       "main", "init"]),
     ("service", ["inputPort", "outputPort", "interface", "type", "define", "execution",
       "cset", "embedded", "courier", "main", "init"]),
     ("inputPort", ["location", "protocol", "interfaces", "aggregates", "redirects", "OneWay",
       "RequestResponse", "Location", "Protocol", "Interfaces", "Aggregates", "Redirects"]),
     ("outputPort", ["location", "protocol", "interfaces", "OneWay", "RequestResponse",
       "Location", "Protocol", "Interfaces"]),
     ("interface", ["OneWay", "RequestResponse"]),
     ("import", ["from", "import", "as"]),
     ("execution", ["single", "sequential", "concurrent"]),
     ("embedded", ["Java", "Jolie", "JavaScript"]),
     ("courier", ["forward"]),
     ("type", ["undefined", "any", "void", "bool", "int", "long", "double", "string", "raw"])]

end ServiceSyntax.Registry
