import NotebookEngine.Text.Basic

/-!
# The bundled script

The script that an interpreter is given when no other is configured. It answers the requests of a
session in the namespace of one process. It is kept line by line.
-/

namespace NotebookEngine

namespace Session

/-- The lines of the bundled script. -/
def bundledLines : List String := [
  "\"\"\"Persistent kernel for polycell.",
  "",
  "Reads one JSON request per line on stdin and writes one JSON reply per line",
  "on stdout. Definitions persist across requests in a shared namespace.",
  "",
  "    -> \x7b\"code\": \"x = 1\\nx + 1\", \"cell_id\": \"c1\"\x7d",
  "    <- \x7b\"cell_id\": \"c1\", \"status\": \"ok\", \"result\": \"2\", \"stdout\": \"\", ...\x7d",
  "    -> \x7b\"command\": \"shutdown\"\x7d",
  "    <- \x7b\"status\": \"shutdown\"\x7d",
  "\"\"\"",
  "",
  "import ast",
  "import io",
  "import json",
  "import sys",
  "import traceback",
  "from contextlib import redirect_stderr, redirect_stdout",
  "",
  "CELL_FILENAME = \"<cell>\"",
  "",
  "",
  "class Kernel:",
  "    def __init__(self):",
  "        self.namespace = \x7b\"__name__\": \"__main__\", \"__doc__\": None\x7d",
  "",
  "    def execute(self, code, cell_id):",
  "        stdout = io.StringIO()",
  "        stderr = io.StringIO()",
  "        reply = \x7b",
  "            \"cell_id\": cell_id,",
  "            \"status\": \"ok\",",
  "            \"result\": None,",
  "            \"stdout\": \"\",",
  "            \"stderr\": \"\",",
  "            \"side_effects\": [],",
  "            \"error\": None,",
  "        \x7d",
  "",
  "        saved_stdin = sys.stdin",
  "        sys.stdin = io.StringIO()",
  "        try:",
  "            with redirect_stdout(stdout), redirect_stderr(stderr):",
  "                value = self._run(code)",
  "            if value is not None:",
  "                reply[\"result\"] = repr(value)",
  "        except KeyboardInterrupt:",
  "            raise",
  "        except BaseException as exc:",
  "            reply[\"status\"] = \"error\"",
  "            reply[\"error\"] = \x7b",
  "                \"type\": type(exc).__name__,",
  "                \"message\": str(exc),",
  "                \"traceback\": \"\".join(traceback.format_exception(type(exc), exc, exc.__traceback__)),",
  "            \x7d",
  "        finally:",
  "            sys.stdin = saved_stdin",
  "",
  "        reply[\"stdout\"] = stdout.getvalue()",
  "        reply[\"stderr\"] = stderr.getvalue()",
  "        for what in (\"stdout\", \"stderr\"):",
  "            content = reply[what].strip()",
  "            if content:",
  "                reply[\"side_effects\"].append(\x7b\"what\": what, \"content\": content\x7d)",
  "        return reply",
  "",
  "    def _run(self, code):",
  "        tree = ast.parse(code, filename=CELL_FILENAME, mode=\"exec\")",
  "        if not tree.body:",
  "            return None",
  "",
  "        last = tree.body[-1]",
  "        if not isinstance(last, ast.Expr):",
  "            exec(compile(tree, CELL_FILENAME, \"exec\"), self.namespace)",
  "            return None",
  "",
  "        if len(tree.body) > 1:",
  "            head = ast.Module(body=tree.body[:-1], type_ignores=[])",
  "            exec(compile(head, CELL_FILENAME, \"exec\"), self.namespace)",
  "",
  "        value = eval(compile(ast.Expression(body=last.value), CELL_FILENAME, \"eval\"), self.namespace)",
  "        self.namespace[\"_\"] = value",
  "        return value",
  "",
  "",
  "def scrub(value):",
  "    \"\"\"Replace lone surrogates, which are not valid in UTF-8 JSON.\"\"\"",
  "    if isinstance(value, str):",
  "        return value.encode(\"utf-8\", \"surrogatepass\").decode(\"utf-8\", \"replace\")",
  "    if isinstance(value, dict):",
  "        return \x7bkey: scrub(item) for key, item in value.items()\x7d",
  "    if isinstance(value, list):",
  "        return [scrub(item) for item in value]",
  "    return value",
  "",
  "",
  "def send(channel, message):",
  "    channel.write(json.dumps(scrub(message)) + \"\\n\")",
  "    channel.flush()",
  "",
  "",
  "def main():",
  "    channel = sys.stdout",
  "    kernel = Kernel()",
  "    send(channel, \x7b\"status\": \"ready\"\x7d)",
  "",
  "    for line in sys.stdin:",
  "        line = line.strip()",
  "        if not line:",
  "            continue",
  "",
  "        try:",
  "            message = json.loads(line)",
  "        except ValueError as exc:",
  "            send(channel, \x7b",
  "                \"status\": \"error\",",
  "                \"error\": \x7b\"type\": \"JSONDecodeError\", \"message\": str(exc), \"traceback\": \"\"\x7d,",
  "            \x7d)",
  "            continue",
  "",
  "        if message.get(\"command\") == \"shutdown\":",
  "            send(channel, \x7b\"status\": \"shutdown\"\x7d)",
  "            break",
  "",
  "        reply = kernel.execute(str(message.get(\"code\", \"\")), str(message.get(\"cell_id\", \"\")))",
  "        send(channel, reply)",
  "",
  "",
  "if __name__ == \"__main__\":",
  "    main()",
  ""]

/-- The bundled script. -/
def bundledScript : Text :=
  Text.join ['\n'] (bundledLines.map fun (l : String) => l.toList)

end Session

end NotebookEngine
