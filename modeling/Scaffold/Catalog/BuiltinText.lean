/-!
# Builtin template texts

The templates that the tool ships, one text each. Their tags are written in the
language of `Scaffold.Template`.
-/

namespace Scaffold.BuiltinText

/-- The text of lines that all end in a line feed. -/
def ofLines (lines : List String) : String := String.join (lines.map (· ++ "\n"))

/-- Writes the handler of one route. -/
def apiHandler : String := ofLines [
  "package \x7b\x7b pkg_name \x7d\x7d",
  "",
  "import (",
  "\t\"net/http\"",
  "",
  "\x7b% if after_1_1_10 %\x7d\t\"github.com/zeromicro/go-zero/rest/httpx\"",
  "\x7b% endif %\x7d\x7b% for imp in imports %\x7d\t\x7b\x7b imp \x7d\x7d",
  "\x7b% endfor %\x7d)",
  "",
  "// \x7b\x7b handler_name \x7d\x7d \x7b\x7b summary \x7d\x7d",
  "// @Tags \x7b\x7b tag \x7d\x7d",
  "// @Router \x7b\x7b path \x7d\x7d [\x7b\x7b method \x7d\x7d]",
  "\x7b% if has_security %\x7d// @Security ApiKeyAuth",
  "\x7b% endif %\x7dfunc \x7b\x7b handler_name \x7d\x7d(svcCtx *svc.ServiceContext) http.HandlerFunc \x7b",
  "\treturn func(w http.ResponseWriter, r *http.Request) \x7b",
  "\x7b% if has_request %\x7d\t\tvar req types.\x7b\x7b request_type \x7d\x7d",
  "\t\tif err := httpx.Parse(r, &req); err != nil \x7b",
  "\t\t\thttpx.Error(w, err)",
  "\t\t\treturn",
  "\t\t\x7d",
  "",
  "\x7b% endif %\x7d\t\tl := \x7b\x7b logic_pkg \x7d\x7d.New\x7b\x7b logic_type \x7d\x7d(r.Context(), svcCtx)",
  "\t\t\x7b% if has_response %\x7dresp, \x7b% endif %\x7derr := l.\x7b\x7b call \x7d\x7d(\x7b% if has_request %\x7dreq\x7b% endif %\x7d)",
  "\t\tif err != nil \x7b",
  "\t\t\thttpx.Error(w, err)",
  "\t\t\x7d else \x7b",
  "\t\t\t\x7b% if has_response %\x7dhttpx.OkJson(w, resp)\x7b% else %\x7dhttpx.Ok(w)\x7b% endif %\x7d",
  "\t\t\x7d",
  "\t\x7d",
  "\x7d"]

/-- Writes the logic of one route. -/
def apiLogic : String := ofLines [
  "package \x7b\x7b pkg_name \x7d\x7d",
  "",
  "import (",
  "\x7b% for imp in imports %\x7d\t\x7b\x7b imp \x7d\x7d",
  "\x7b% endfor %\x7d)",
  "",
  "type \x7b\x7b logic \x7d\x7d struct \x7b",
  "\tlogx.Logger",
  "\tctx    context.Context",
  "\tsvcCtx *svc.ServiceContext",
  "\x7d",
  "",
  "func New\x7b\x7b logic \x7d\x7d(ctx context.Context, svcCtx *svc.ServiceContext) *\x7b\x7b logic \x7d\x7d \x7b",
  "\treturn &\x7b\x7b logic \x7d\x7d\x7b",
  "\t\tLogger: logx.WithContext(ctx),",
  "\t\tctx:    ctx,",
  "\t\tsvcCtx: svcCtx,",
  "\t\x7d",
  "\x7d",
  "",
  "// \x7b\x7b function \x7d\x7d \x7b\x7b summary \x7d\x7d",
  "func (l *\x7b\x7b logic \x7d\x7d) \x7b\x7b function \x7d\x7d(\x7b\x7b request \x7d\x7d) \x7b\x7b response_type \x7d\x7d \x7b",
  "\t// todo: add your logic here and delete this line",
  "",
  "\t\x7b\x7b return_string \x7d\x7d",
  "\x7d"]

/-- Writes the logic file of one method. -/
def rpcLogic : String := ofLines [
  "package logic",
  "",
  "import (",
  "\t\"context\"",
  "",
  "\x7b% for imp in imports %\x7d\t\x7b\x7b imp \x7d\x7d",
  "\x7b% endfor %\x7d",
  "\t\"github.com/zeromicro/go-zero/core/logx\"",
  ")",
  "",
  "type \x7b\x7b logic_name \x7d\x7d struct \x7b",
  "\tctx    context.Context",
  "\tsvcCtx *svc.ServiceContext",
  "\tlogx.Logger",
  "\x7d",
  "",
  "func New\x7b\x7b logic_name \x7d\x7d(ctx context.Context, svcCtx *svc.ServiceContext) *\x7b\x7b logic_name \x7d\x7d \x7b",
  "\treturn &\x7b\x7b logic_name \x7d\x7d\x7b",
  "\t\tctx:    ctx,",
  "\t\tsvcCtx: svcCtx,",
  "\t\tLogger: logx.WithContext(ctx),",
  "\t\x7d",
  "\x7d",
  "\x7b\x7b functions \x7d\x7d"]

/-- Writes the function of one method. -/
def rpcLogicFunc : String := ofLines [
  "\x7b% if has_comment %\x7d\x7b\x7b comment \x7d\x7d\x7b% endif %\x7d",
  "func (l *\x7b\x7b logic_name \x7d\x7d) \x7b\x7b method \x7d\x7d(\x7b% if has_req %\x7din \x7b\x7b request \x7d\x7d\x7b% if stream %\x7d, stream \x7b\x7b stream_body \x7d\x7d\x7b% endif %\x7d\x7b% else %\x7dstream \x7b\x7b stream_body \x7d\x7d\x7b% endif %\x7d) (\x7b% if has_reply %\x7d\x7b\x7b response \x7d\x7d, \x7b% endif %\x7derror) \x7b",
  "\t// todo: add your logic here and delete this line",
  "",
  "\treturn \x7b% if has_reply %\x7d&\x7b\x7b response_type \x7d\x7d\x7b\x7d, \x7b% endif %\x7dnil",
  "\x7d"]

/-- Writes the configuration of a service. -/
def rpcEtc : String := ofLines [
  "Name: \x7b\x7b service_name \x7d\x7d.rpc",
  "ListenOn: 127.0.0.1:8080",
  "Etcd:",
  "  Hosts:",
  "  - 127.0.0.1:2379",
  "  Key: \x7b\x7b service_name \x7d\x7d.rpc"]

/-- Writes the model of one table. -/
def modelModel : String := ofLines [
  "package \x7b\x7b pkg \x7d\x7d",
  "",
  "\x7b\x7b imports \x7d\x7d",
  "var (",
  "\t\x7b\x7b lower_table \x7d\x7dFieldNames = builder.RawFieldNames(&\x7b\x7b upper_table \x7d\x7d\x7b\x7d)",
  "\t\x7b\x7b lower_table \x7d\x7dRows       = strings.Join(\x7b\x7b lower_table \x7d\x7dFieldNames, \",\")",
  "\x7b% if with_cache %\x7d",
  "\tcache\x7b\x7b upper_table \x7d\x7dIdPrefix = \"cache:\x7b\x7b lower_table \x7d\x7d:id:\"",
  "\x7b% endif %\x7d)",
  "",
  "type (",
  "\t\x7b\x7b upper_table \x7d\x7dModel interface \x7b",
  "\t\tInsert(data *\x7b\x7b upper_table \x7d\x7d) (sql.Result, error)",
  "\t\tFindOne(id int64) (*\x7b\x7b upper_table \x7d\x7d, error)",
  "\t\tDelete(id int64) error",
  "\t\x7d",
  "",
  "\tdefault\x7b\x7b upper_table \x7d\x7dModel struct \x7b",
  "\x7b% if with_cache %\x7d\t\tsqlc.CachedConn",
  "\x7b% else %\x7d\t\tconn sqlx.SqlConn",
  "\x7b% endif %\x7d\t\ttable string",
  "\t\x7d",
  "",
  "\t\x7b\x7b upper_table \x7d\x7d struct \x7b",
  "\x7b% for field in fields %\x7d\t\t\x7b\x7b field.name \x7d\x7d \x7b\x7b field.type_name \x7d\x7d \x60db:\"\x7b\x7b field.column \x7d\x7d\"\x60\x7b% if field.comment %\x7d // \x7b\x7b field.comment \x7d\x7d\x7b% endif %\x7d",
  "\x7b% endfor %\x7d\t\x7d",
  ")",
  "",
  "func New\x7b\x7b upper_table \x7d\x7dModel(conn sqlx.SqlConn\x7b% if with_cache %\x7d, c cache.CacheConf\x7b% endif %\x7d) \x7b\x7b upper_table \x7d\x7dModel \x7b",
  "\treturn &default\x7b\x7b upper_table \x7d\x7dModel\x7b",
  "\x7b% if with_cache %\x7d\t\tCachedConn: sqlc.NewConn(conn, c),",
  "\x7b% else %\x7d\t\tconn:       conn,",
  "\x7b% endif %\x7d\t\ttable:      \"\x60\x7b\x7b table \x7d\x7d\x60\",",
  "\t\x7d",
  "\x7d",
  "",
  "func (m *default\x7b\x7b upper_table \x7d\x7dModel) Insert(data *\x7b\x7b upper_table \x7d\x7d) (sql.Result, error) \x7b",
  "\tquery := fmt.Sprintf(\"insert into %s (%s) values (?)\", m.table, \x7b\x7b lower_table \x7d\x7dRows)",
  "\x7b% if with_cache %\x7d\treturn m.ExecNoCache(query, data)",
  "\x7b% else %\x7d\treturn m.conn.Exec(query, data)",
  "\x7b% endif %\x7d\x7d",
  "",
  "func (m *default\x7b\x7b upper_table \x7d\x7dModel) FindOne(id int64) (*\x7b\x7b upper_table \x7d\x7d, error) \x7b",
  "\tvar resp \x7b\x7b upper_table \x7d\x7d",
  "\tquery := fmt.Sprintf(\"select %s from %s where \x60id\x60 = ? limit 1\", \x7b\x7b lower_table \x7d\x7dRows, m.table)",
  "\x7b% if with_cache %\x7d\tkey := fmt.Sprintf(\"%s%v\", cache\x7b\x7b upper_table \x7d\x7dIdPrefix, id)",
  "\terr := m.QueryRow(&resp, key, func(conn sqlx.SqlConn, v interface\x7b\x7d) error \x7b",
  "\t\treturn conn.QueryRow(v, query, id)",
  "\t\x7d)",
  "\x7b% else %\x7d\terr := m.conn.QueryRow(&resp, query, id)",
  "\x7b% endif %\x7d\tswitch err \x7b",
  "\tcase nil:",
  "\t\treturn &resp, nil",
  "\tcase sqlc.ErrNotFound:",
  "\t\treturn nil, ErrNotFound",
  "\tdefault:",
  "\t\treturn nil, err",
  "\t\x7d",
  "\x7d",
  "",
  "func (m *default\x7b\x7b upper_table \x7d\x7dModel) Delete(id int64) error \x7b",
  "\tquery := fmt.Sprintf(\"delete from %s where \x60id\x60 = ?\", m.table)",
  "\x7b% if with_cache %\x7d\tkey := fmt.Sprintf(\"%s%v\", cache\x7b\x7b upper_table \x7d\x7dIdPrefix, id)",
  "\t_, err := m.Exec(func(conn sqlx.SqlConn) (sql.Result, error) \x7b",
  "\t\treturn conn.Exec(query, id)",
  "\t\x7d, key)",
  "\x7b% else %\x7d\t_, err := m.conn.Exec(query, id)",
  "\x7b% endif %\x7d\treturn err",
  "\x7d"]

/-- Writes the imports of a cached model. -/
def modelImport : String := ofLines [
  "import (",
  "\t\"database/sql\"",
  "\t\"fmt\"",
  "\t\"strings\"",
  "\x7b% if time %\x7d\t\"time\"",
  "\x7b% endif %\x7d",
  "\t\"github.com/zeromicro/go-zero/core/stores/builder\"",
  "\t\"github.com/zeromicro/go-zero/core/stores/cache\"",
  "\t\"github.com/zeromicro/go-zero/core/stores/sqlc\"",
  "\t\"github.com/zeromicro/go-zero/core/stores/sqlx\"",
  ")"]

/-- Writes the imports of a model without cache. -/
def modelImportNoCache : String := ofLines [
  "import (",
  "\t\"database/sql\"",
  "\t\"fmt\"",
  "\t\"strings\"",
  "\x7b% if time %\x7d\t\"time\"",
  "\x7b% endif %\x7d",
  "\t\"github.com/zeromicro/go-zero/core/stores/builder\"",
  "\t\"github.com/zeromicro/go-zero/core/stores/sqlc\"",
  "\t\"github.com/zeromicro/go-zero/core/stores/sqlx\"",
  ")"]

/-- Writes the errors that models share. -/
def modelVars : String := ofLines [
  "package \x7b\x7b pkg \x7d\x7d",
  "",
  "import \"github.com/zeromicro/go-zero/core/stores/sqlx\"",
  "",
  "var ErrNotFound = sqlx.ErrNotFound"]

/-- Writes the image build. -/
def dockerDocker : String := ofLines [
  "FROM golang:\x7b\x7b go_version \x7d\x7d-alpine AS builder",
  "",
  "LABEL stage=gobuilder",
  "",
  "ENV CGO_ENABLED 0",
  "ENV GOOS linux",
  "",
  "WORKDIR /build",
  "",
  "ADD go.mod .",
  "ADD go.sum .",
  "RUN go mod download",
  "COPY . .",
  "RUN go build -ldflags=\"-s -w\" -o /app/\x7b\x7b exe_file \x7d\x7d \x7b\x7b go_main \x7d\x7d",
  "",
  "",
  "FROM alpine",
  "",
  "RUN apk update --no-cache && apk add --no-cache ca-certificates tzdata",
  "",
  "WORKDIR /app",
  "COPY --from=builder /app/\x7b\x7b exe_file \x7d\x7d /app/\x7b\x7b exe_file \x7d\x7d",
  "\x7b% if has_port %\x7d",
  "EXPOSE \x7b\x7b port \x7d\x7d",
  "\x7b% endif %\x7d",
  "CMD [\"./\x7b\x7b exe_file \x7d\x7d\"]"]

/-- Writes the deployment and its service. -/
def kubeDeployment : String := ofLines [
  "apiVersion: apps/v1",
  "kind: Deployment",
  "metadata:",
  "  name: \x7b\x7b name \x7d\x7d",
  "  namespace: \x7b\x7b namespace \x7d\x7d",
  "  labels:",
  "    app: \x7b\x7b name \x7d\x7d",
  "spec:",
  "  replicas: \x7b\x7b replicas \x7d\x7d",
  "  revisionHistoryLimit: 5",
  "  selector:",
  "    matchLabels:",
  "      app: \x7b\x7b name \x7d\x7d",
  "  template:",
  "    metadata:",
  "      labels:",
  "        app: \x7b\x7b name \x7d\x7d",
  "    spec:",
  "      containers:",
  "      - name: \x7b\x7b name \x7d\x7d",
  "        image: \x7b\x7b image \x7d\x7d",
  "\x7b% if port %\x7d        ports:",
  "        - containerPort: \x7b\x7b port \x7d\x7d",
  "\x7b% endif %\x7d        resources:",
  "          requests:",
  "            cpu: 200m",
  "            memory: 64Mi",
  "          limits:",
  "            cpu: 500m",
  "            memory: 512Mi",
  "\x7b% if port %\x7d",
  "---",
  "",
  "apiVersion: v1",
  "kind: Service",
  "metadata:",
  "  name: \x7b\x7b name \x7d\x7d-svc",
  "  namespace: \x7b\x7b namespace \x7d\x7d",
  "spec:",
  "  ports:",
  "  - port: \x7b\x7b port \x7d\x7d",
  "    targetPort: \x7b\x7b port \x7d\x7d",
  "  selector:",
  "    app: \x7b\x7b name \x7d\x7d",
  "\x7b% endif %\x7d"]

/-- Writes the model of one document type. -/
def mongoModel : String := ofLines [
  "package model",
  "",
  "import (",
  "\t\"context\"",
  "",
  "\t\"github.com/globalsign/mgo/bson\"",
  "\x7b% if cache %\x7d\tcachec \"github.com/zeromicro/go-zero/core/stores/mongoc\"",
  "\x7b% else %\x7d\t\"github.com/zeromicro/go-zero/core/stores/mongo\"",
  "\x7b% endif %\x7d)",
  "",
  "\x7b% if cache %\x7dvar prefix\x7b\x7b type_name \x7d\x7dCacheKey = \"cache:\x7b\x7b type_name \x7d\x7d:\"",
  "",
  "\x7b% endif %\x7dtype \x7b\x7b type_name \x7d\x7dModel interface \x7b",
  "\tInsert(ctx context.Context, data *\x7b\x7b type_name \x7d\x7d) error",
  "\tFindOne(ctx context.Context, id string) (*\x7b\x7b type_name \x7d\x7d, error)",
  "\tUpdate(ctx context.Context, data *\x7b\x7b type_name \x7d\x7d) error",
  "\tDelete(ctx context.Context, id string) error",
  "\x7d",
  "",
  "type default\x7b\x7b type_name \x7d\x7dModel struct \x7b",
  "\x7b% if cache %\x7d\t*cachec.Model",
  "\x7b% else %\x7d\t*mongo.Model",
  "\x7b% endif %\x7d\x7d",
  "",
  "func New\x7b\x7b type_name \x7d\x7dModel(url, collection string\x7b% if cache %\x7d, c cachec.CacheConf\x7b% endif %\x7d) \x7b\x7b type_name \x7d\x7dModel \x7b",
  "\treturn &default\x7b\x7b type_name \x7d\x7dModel\x7b",
  "\x7b% if cache %\x7d\t\tModel: cachec.MustNewModel(url, collection, c),",
  "\x7b% else %\x7d\t\tModel: mongo.MustNewModel(url, collection),",
  "\x7b% endif %\x7d\t\x7d",
  "\x7d",
  "",
  "func (m *default\x7b\x7b type_name \x7d\x7dModel) Insert(ctx context.Context, data *\x7b\x7b type_name \x7d\x7d) error \x7b",
  "\tif !data.ID.Valid() \x7b",
  "\t\tdata.ID = bson.NewObjectId()",
  "\t\x7d",
  "",
  "\tsession, err := m.TakeSession()",
  "\tif err != nil \x7b",
  "\t\treturn err",
  "\t\x7d",
  "",
  "\tdefer m.PutSession(session)",
  "\treturn m.GetCollection(session).Insert(data)",
  "\x7d",
  "",
  "func (m *default\x7b\x7b type_name \x7d\x7dModel) FindOne(ctx context.Context, id string) (*\x7b\x7b type_name \x7d\x7d, error) \x7b",
  "\tif !bson.IsObjectIdHex(id) \x7b",
  "\t\treturn nil, ErrInvalidObjectId",
  "\t\x7d",
  "",
  "\tsession, err := m.TakeSession()",
  "\tif err != nil \x7b",
  "\t\treturn nil, err",
  "\t\x7d",
  "",
  "\tdefer m.PutSession(session)",
  "\tvar \x7b\x7b lower_type \x7d\x7d \x7b\x7b type_name \x7d\x7d",
  "\x7b% if cache %\x7d\tkey := prefix\x7b\x7b type_name \x7d\x7dCacheKey + id",
  "\terr = m.GetCollection(session).FindOneId(&\x7b\x7b lower_type \x7d\x7d, key, bson.ObjectIdHex(id))",
  "\x7b% else %\x7d\terr = m.GetCollection(session).FindId(bson.ObjectIdHex(id)).One(&\x7b\x7b lower_type \x7d\x7d)",
  "\x7b% endif %\x7d\tswitch err \x7b",
  "\tcase nil:",
  "\t\treturn &\x7b\x7b lower_type \x7d\x7d, nil",
  "\tcase ErrNotFound:",
  "\t\treturn nil, ErrNotFound",
  "\tdefault:",
  "\t\treturn nil, err",
  "\t\x7d",
  "\x7d",
  "",
  "func (m *default\x7b\x7b type_name \x7d\x7dModel) Update(ctx context.Context, data *\x7b\x7b type_name \x7d\x7d) error \x7b",
  "\tsession, err := m.TakeSession()",
  "\tif err != nil \x7b",
  "\t\treturn err",
  "\t\x7d",
  "",
  "\tdefer m.PutSession(session)",
  "\x7b% if cache %\x7d\tkey := prefix\x7b\x7b type_name \x7d\x7dCacheKey + data.ID.Hex()",
  "\treturn m.GetCollection(session).UpdateId(data.ID, data, key)",
  "\x7b% else %\x7d\treturn m.GetCollection(session).UpdateId(data.ID, data)",
  "\x7b% endif %\x7d\x7d",
  "",
  "func (m *default\x7b\x7b type_name \x7d\x7dModel) Delete(ctx context.Context, id string) error \x7b",
  "\tsession, err := m.TakeSession()",
  "\tif err != nil \x7b",
  "\t\treturn err",
  "\t\x7d",
  "",
  "\tdefer m.PutSession(session)",
  "\x7b% if cache %\x7d\tkey := prefix\x7b\x7b type_name \x7d\x7dCacheKey + id",
  "\treturn m.GetCollection(session).RemoveId(bson.ObjectIdHex(id), key)",
  "\x7b% else %\x7d\treturn m.GetCollection(session).RemoveId(bson.ObjectIdHex(id))",
  "\x7b% endif %\x7d\x7d"]

/-- Writes the errors that document models share. -/
def mongoError : String := ofLines [
  "package model",
  "",
  "import (",
  "\t\"errors\"",
  "",
  "\t\"github.com/zeromicro/go-zero/core/stores/mongo\"",
  ")",
  "",
  "var (",
  "\tErrNotFound        = mongo.ErrNotFound",
  "\tErrInvalidObjectId = errors.New(\"invalid objectId\")",
  ")"]

end Scaffold.BuiltinText
