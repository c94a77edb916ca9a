import ServiceBootstrap.Hello.Root

/-!
The two responses: a greeting for every path under the root, and a refusal for all others.
-/

namespace ServiceBootstrap.Hello

def greeting : String := "Hello, World!"

structure Response where
  status : String
  body : String
  deriving DecidableEq, Repr

def found : Response := ⟨"200 OK", greeting⟩
def missing : Response := ⟨"404 Not Found", "Not Found"⟩

def Response.text (r : Response) : String :=
  "HTTP/1.1 " ++ r.status ++ "\r\nContent-Type: text/plain\r\nContent-Length: " ++
    toString r.body.utf8ByteSize ++ "\r\nConnection: close\r\n\r\n" ++ r.body

def respond (path root : String) : Response := if underRoot path root then found else missing

end ServiceBootstrap.Hello
