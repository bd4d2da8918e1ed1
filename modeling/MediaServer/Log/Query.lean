import MediaServer.Text.Form

namespace MediaServer

/-- Parameters whose values are kept out of every log. -/
def secretParameters : List String := ["access_token"]

def hideSecret (pair : String × String) : String × String :=
  if secretParameters.contains pair.1 then (pair.1, "redacted") else pair

/-- A query as it may be logged: all pairs in order, with the secret values hidden. -/
def logSafeQuery (query? : Option String) : String :=
  Form.encode ((Form.decode (query?.getD "")).map hideSecret)

end MediaServer
