namespace Schematics

inductive Toml where
  | string (text : String)
  | integer (value : Int64)
  | real (value : Float)
  | boolean (value : Bool)
  | moment (text : String)
  | array (items : List Toml)
  | table (entries : List (String × Toml))

end Schematics
