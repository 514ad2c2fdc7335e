import Phrasebook.Catalog.Change

/-!
# The built-in catalog

The intents of a Spanish shop assistant: searching, buying, selling, prices, information, help and
courtesies.
-/

namespace Phrasebook.Catalog.Builtin

def product : List String := ["artículo", "item", "cosa", "objeto"]

/-- The declaration of a slot, with its default if it has one. -/
def slot (type : String) (required : Bool) (description : String) (fallback : Value) : Value :=
  .record ([("type", .text type), ("required", .bool required), ("description", .text description)]
    ++ if fallback.isNull then [] else [("default", fallback)])

def intent (name description : String) (patterns : List String)
    (parameters : List (String × Value)) (synonyms : List (String × List String)) : Value :=
  .record [("name", .text name), ("description", .text description),
    ("patterns", .texts patterns), ("parameters", .record parameters),
    ("synonyms", .record (synonyms.map fun entry => (entry.1, .texts entry.2)))]

def search : Value :=
  intent "Búsqueda de Productos" "Intención para buscar productos o servicios"
    ["buscar \x7bnombre_producto\x7d", "encontrar \x7bnombre_producto\x7d",
      "producto \x7bnombre_producto\x7d", "necesito \x7bnombre_producto\x7d",
      "quiero \x7bnombre_producto\x7d", "busco \x7bnombre_producto\x7d",
      "dónde encontrar \x7bnombre_producto\x7d", "cómo conseguir \x7bnombre_producto\x7d"]
    [("nombre_producto", slot "string" true "Nombre del producto a buscar" .null)]
    [("buscar", ["encontrar", "busco", "necesito", "quiero"]),
      ("producto", product)]

def purchase : Value :=
  intent "Compra de Productos" "Intención para realizar una compra"
    ["comprar \x7bnombre_producto\x7d", "adquirir \x7bnombre_producto\x7d",
      "pagar \x7bnombre_producto\x7d", "ordenar \x7bnombre_producto\x7d",
      "hacer pedido de \x7bnombre_producto\x7d", "quiero comprar \x7bnombre_producto\x7d",
      "necesito comprar \x7bnombre_producto\x7d", "deseo adquirir \x7bnombre_producto\x7d"]
    [("nombre_producto", slot "string" true "Nombre del producto a comprar" .null),
      ("cantidad", slot "number" false "Cantidad del producto" (.int 1))]
    [("comprar", ["adquirir", "pagar", "ordenar", "pedir"]),
      ("producto", product)]

def sale : Value :=
  intent "Venta de Productos" "Intención para vender productos"
    ["vender \x7bnombre_producto\x7d", "poner en venta \x7bnombre_producto\x7d",
      "ofrecer \x7bnombre_producto\x7d", "publicar \x7bnombre_producto\x7d",
      "anunciar \x7bnombre_producto\x7d", "quiero vender \x7bnombre_producto\x7d",
      "necesito vender \x7bnombre_producto\x7d", "deseo vender \x7bnombre_producto\x7d"]
    [("nombre_producto", slot "string" true "Nombre del producto a vender" .null),
      ("precio", slot "number" false "Precio del producto" .null)]
    [("vender", ["ofrecer", "publicar", "anunciar", "poner en venta"]),
      ("producto", product)]

def help : Value :=
  intent "Solicitud de Ayuda" "Intención para solicitar ayuda o soporte"
    ["ayuda", "necesito ayuda", "soporte", "problema", "error", "no funciona",
      "tengo un problema", "puedes ayudarme", "cómo funciona", "instrucciones"]
    [("tema", slot "string" false "Tema específico sobre el que se necesita ayuda" .null)]
    [("ayuda", ["soporte", "asistencia", "apoyo"]),
      ("problema", ["error", "fallo", "defecto", "bug"])]

def greeting : Value :=
  intent "Saludo" "Intención de saludo o presentación"
    ["hola", "buenos días", "buenas tardes", "buenas noches", "saludos", "qué tal",
      "cómo estás", "bienvenido", "hey", "hi"]
    []
    [("hola", ["saludos", "hey", "hi", "buenos días", "buenas tardes", "buenas noches"])]

def farewell : Value :=
  intent "Despedida" "Intención de despedida o cierre"
    ["adiós", "hasta luego", "nos vemos", "chao", "bye", "hasta la vista",
      "que tengas un buen día", "gracias", "muchas gracias"]
    []
    [("adiós", ["hasta luego", "nos vemos", "chao", "bye", "hasta la vista"])]

def price : Value :=
  intent "Consulta de Precio" "Intención para consultar precios"
    ["precio de \x7bnombre_producto\x7d", "cuánto cuesta \x7bnombre_producto\x7d",
      "valor de \x7bnombre_producto\x7d", "costo de \x7bnombre_producto\x7d",
      "cuál es el precio de \x7bnombre_producto\x7d", "qué precio tiene \x7bnombre_producto\x7d",
      "tarifa de \x7bnombre_producto\x7d"]
    [("nombre_producto", slot "string" true "Nombre del producto para consultar precio" .null)]
    [("precio", ["costo", "valor", "tarifa", "cuánto cuesta"]),
      ("producto", product)]

def information : Value :=
  intent "Solicitud de Información" "Intención para solicitar información general"
    ["información sobre \x7btema\x7d", "datos de \x7btema\x7d", "detalles de \x7btema\x7d",
      "qué es \x7btema\x7d", "explica \x7btema\x7d", "cuéntame sobre \x7btema\x7d",
      "más información de \x7btema\x7d"]
    [("tema", slot "string" true "Tema sobre el que se solicita información" .null)]
    [("información", ["datos", "detalles", "explicación"]),
      ("sobre", ["acerca de", "relacionado con", "respecto a"])]

def declarations : List (Value × Value) :=
  [(.text "BUSQUEDA", search),
    (.text "COMPRA", purchase),
    (.text "VENTA", sale),
    (.text "AYUDA", help),
    (.text "SALUDO", greeting),
    (.text "DESPEDIDA", farewell),
    (.text "PRECIO", price),
    (.text "INFORMACION", information)]

end Phrasebook.Catalog.Builtin

namespace Phrasebook.Catalog

/-- The built-in catalog. -/
def builtin : Except Fault Catalog := ofDeclarations Builtin.declarations

end Phrasebook.Catalog
