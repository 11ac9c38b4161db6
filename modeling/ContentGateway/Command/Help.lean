/-!
# Help

The help of the program and of each command. Its first lines, up to the first empty one, are the
usage that a mistake in the arguments is answered with.
-/

namespace ContentGateway.Command.Help

/-- Lines, each with its end. -/
def ofLines (lines : List String) : String := String.join (lines.map fun line => line ++ "\n")

def top : String := ofLines [
  "usage: squidex [-h] [--base-url BASE_URL] [--verbose] \x7bquery,content\x7d ...",
  "",
  "Squidex CLI - Command-line interface for Squidex content via ap-games-api",
  "",
  "positional arguments:",
  "  \x7bquery,content\x7d      Commands",
  "    query              Print compiled query parameters",
  "    content            List and manage content items",
  "",
  "options:",
  "  -h, --help           show this help message and exit",
  "  --base-url BASE_URL  Gateway base URL (overrides SQUIDEX_API_BASE_URL)",
  "  --verbose, -v        Log HTTP requests and retries",
  "",
  "Output Modes:",
  "  TTY (human):  Pretty tables, limited rows",
  "  Pipe (LLM):   Full JSON, auto-paginates all results",
  "",
  "Examples:",
  "  squidex content list questions --eq data/difficulty/iv=easy --orderby \"created desc\"",
  "  squidex content get questions <id>",
  "  squidex content create questions --data '\x7b\"title\": \x7b\"iv\": \"Hello\"\x7d\x7d'" ++
    " --publish",
  "  squidex query --contains data/title/iv=math --top 20"]

def query : String := ofLines [
  "usage: squidex query [-h] [--eq EXPR] [--ne EXPR] [--gt EXPR] [--ge EXPR]",
  "                     [--lt EXPR] [--le EXPR] [--contains EXPR]",
  "                     [--startswith EXPR] [--endswith EXPR] [--in EXPR]",
  "                     [--filter EXPR] [--orderby ORDERBY] [--top TOP]",
  "                     [--skip SKIP] [--search SEARCH]",
  "",
  "options:",
  "  -h, --help         show this help message and exit",
  "  --eq EXPR          field=value: equals (value parsed as JSON, else string)",
  "  --ne EXPR          field=value: not equals",
  "  --gt EXPR          field=number: greater than",
  "  --ge EXPR          field=number: greater or equal",
  "  --lt EXPR          field=number: less than",
  "  --le EXPR          field=number: less or equal",
  "  --contains EXPR    field=text: contains(field, 'text')",
  "  --startswith EXPR  field=text: startswith(field, 'text')",
  "  --endswith EXPR    field=text: endswith(field, 'text')",
  "  --in EXPR          field=v1,v2,...: field in (v1,v2,...)",
  "  --filter EXPR      Raw filter expression",
  "  --orderby ORDERBY  Sort as 'field [asc|desc]'",
  "  --top TOP          Max results",
  "  --skip SKIP        Results to skip",
  "  --search SEARCH    Full-text search term"]

def content : String := ofLines [
  "usage: squidex content [-h]",
  "                       \x7blist,get,create,update,delete,publish,unpublish,archive,restore\x7d",
  "                       ...",
  "",
  "positional arguments:",
  "  \x7blist,get,create,update,delete,publish,unpublish,archive,restore\x7d",
  "    list                List content items",
  "    get                 Get a content item",
  "    create              Create a content item",
  "    update              Update a content item",
  "    delete              Delete a content item",
  "    publish             Publish a content item",
  "    unpublish           Unpublish a content item",
  "    archive             Archive a content item",
  "    restore             Restore a content item",
  "",
  "options:",
  "  -h, --help            show this help message and exit"]

def list : String := ofLines [
  "usage: squidex content list [-h] [--eq EXPR] [--ne EXPR] [--gt EXPR]",
  "                            [--ge EXPR] [--lt EXPR] [--le EXPR]",
  "                            [--contains EXPR] [--startswith EXPR]",
  "                            [--endswith EXPR] [--in EXPR] [--filter EXPR]",
  "                            [--orderby ORDERBY] [--top TOP] [--skip SKIP]",
  "                            [--search SEARCH]",
  "                            schema",
  "",
  "positional arguments:",
  "  schema             Schema name",
  "",
  "options:",
  "  -h, --help         show this help message and exit",
  "  --eq EXPR          field=value: equals (value parsed as JSON, else string)",
  "  --ne EXPR          field=value: not equals",
  "  --gt EXPR          field=number: greater than",
  "  --ge EXPR          field=number: greater or equal",
  "  --lt EXPR          field=number: less than",
  "  --le EXPR          field=number: less or equal",
  "  --contains EXPR    field=text: contains(field, 'text')",
  "  --startswith EXPR  field=text: startswith(field, 'text')",
  "  --endswith EXPR    field=text: endswith(field, 'text')",
  "  --in EXPR          field=v1,v2,...: field in (v1,v2,...)",
  "  --filter EXPR      Raw filter expression",
  "  --orderby ORDERBY  Sort as 'field [asc|desc]'",
  "  --top TOP          Max results",
  "  --skip SKIP        Results to skip",
  "  --search SEARCH    Full-text search term"]

def get : String := ofLines [
  "usage: squidex content get [-h] schema content_id",
  "",
  "positional arguments:",
  "  schema      Schema name",
  "  content_id  Content ID",
  "",
  "options:",
  "  -h, --help  show this help message and exit"]

def create : String := ofLines [
  "usage: squidex content create [-h] --data DATA [--publish] [--id ID] schema",
  "",
  "positional arguments:",
  "  schema                Schema name",
  "",
  "options:",
  "  -h, --help            show this help message and exit",
  "  --data DATA, -d DATA  JSON content data (or - for stdin)",
  "  --publish             Publish immediately",
  "  --id ID               Explicit content ID"]

def update : String := ofLines [
  "usage: squidex content update [-h] --data DATA [--patch]",
  "                              [--expected-version EXPECTED_VERSION]",
  "                              schema content_id",
  "",
  "positional arguments:",
  "  schema                Schema name",
  "  content_id            Content ID",
  "",
  "options:",
  "  -h, --help            show this help message and exit",
  "  --data DATA, -d DATA  JSON content data (or - for stdin)",
  "  --patch               Partial update (PATCH)",
  "  --expected-version EXPECTED_VERSION",
  "                        Fail unless the item is at this version"]

def delete : String := ofLines [
  "usage: squidex content delete [-h] [--permanent] schema content_id",
  "",
  "positional arguments:",
  "  schema       Schema name",
  "  content_id   Content ID",
  "",
  "options:",
  "  -h, --help   show this help message and exit",
  "  --permanent  Delete permanently"]

/-- The help of the commands that change the status of a content. -/
def action (word : String) : String := ofLines [
  "usage: squidex content " ++ word ++ " [-h] schema content_id",
  "",
  "positional arguments:",
  "  schema      Schema name",
  "  content_id  Content ID",
  "",
  "options:",
  "  -h, --help  show this help message and exit"]

end ContentGateway.Command.Help
